import TokioAwsLc.Stream.FailureLatch

/-!
# Inbound progress does not depend on outbound backpressure

`poll_read` first drives the pending write. Whatever comes of that, short of a failure, the read goes
ahead, and its result is a function of the inbound side alone.

The assumptions of the result are made explicit as data. An `Inbox` is the inbound side during one
poll: what `SSL_read` answers, the same at every call of the poll because no bytes arrive in the
middle of it and a retried `SSL_write` does not change it, and whether the runtime is gone.
`Inbox.Answers` says that a script is such a poll; the readiness events around it are arbitrary.

* `Inbox.reply`: the result of a poll, from its inbox.
* `readLoop_reply`: a read loop that ends, ends in that reply; `readLoop_settles`: it does end once the
  reactor has been quiet for two turns.
* `Reads ops inboxes`: the inboxes of the reads of a run.
* `inbound_progress`: the result, for one poll, for data at hand, and for whole runs.
-/

set_option linter.unusedSectionVars false

namespace TokioAwsLc.Stream

open Ktls (Abi)

variable {W : Type} [DecidableEq W] {cx : W} {w w' : World W}

/-! ## The inbound side of one poll -/

/-- The inbound side during one `poll_read` into `cap` bytes. -/
structure Inbox where
  cap : ℕ
  answer : SslAnswer Chunk
  gone : Option IoError

namespace Inbox

/-- The result of a `poll_read` with this inbox. -/
def reply (i : Inbox) : Poll (IoResult Bytes) :=
  match i.answer with
  | .done bs => .ready (.ok (bs.1.take (min i.cap (2 ^ 31 - 1))))
  | .stopped _ code diag =>
      if code = sslErrorZeroReturn then .ready (.ok [])
      else if IsWant code then
        match i.gone with
        | some e => .ready (.error e)
        | none => .pending
      else .ready (.error (sslIoError "SSL_read" code diag))

/-- The bytes it delivers. -/
def delivers (i : Inbox) : Bytes :=
  deliveredBy (.returned i.reply)

/-- The rounds of a read loop all see this inbox. -/
def Answers (i : Inbox) (rounds : List (Round Chunk)) : Prop :=
  ∀ r ∈ rounds, r.answer = i.answer ∧ r.wait.gone = i.gone

/-- A round in which the reactor is quiet. -/
def quiet (i : Inbox) : Round Chunk :=
  ⟨[], i.answer, .quiet i.gone⟩

end Inbox

/-! ## The read loop -/

/-- What `poll_ssl_ready` returns, by whether the runtime is gone. -/
theorem pollSslReady_reply (site : WaitSite) (code : ℤ) (cx : W) (reader : Bool) (wait : Wait)
    (w : World W) :
    (∀ e, wait.gone = some e →
      (pollSslReady site code cx reader wait w).2 = .ready (.error e)) ∧
    (wait.gone = none → (pollSslReady site code cx reader wait w).2 = .ready (.ok ()) ∨
      (pollSslReady site code cx reader wait w).2 = .pending) := by
  have hclear : ∀ d (w : World W),
      (∀ e, wait.gone = some e →
        (pollClearReady site d .shared wait w).2 = .ready (.error e)) ∧
      (wait.gone = none → (pollClearReady site d .shared wait w).2 = .ready (.ok ()) ∨
        (pollClearReady site d .shared wait w).2 = .pending) := by
    intro d w
    unfold pollClearReady pollReady
    rcases wait.gone with _ | e
    · refine ⟨by simp, fun _ => ?_⟩
      simp only
      split_ifs
      · exact Or.inl rfl
      · exact Or.inr rfl
    · exact ⟨by simp, by simp⟩
  unfold pollSslReady
  simp only
  split_ifs
  · exact hclear .read _
  · exact hclear .write _

/-- With a quiet reactor and the bit clear, the poll is parked. -/
theorem pollSslReady_quiet_of_clear (site : WaitSite) (code : ℤ) (cx : W) (reader : Bool)
    {w : World W} (hr : w.net.ready (wantDir code) = false) :
    (pollSslReady site code cx reader (.quiet none) w).2 = .pending := by
  unfold wantDir at hr
  unfold pollSslReady pollClearReadReady pollClearWriteReady pollClearReady pollReady
  simp only [Wait.quiet, World.events_nil]
  split_ifs at hr ⊢ <;> simp_all [Net.apply]

/-- With a quiet reactor and the bit set, the wait is over and leaves the bit clear. -/
theorem pollSslReady_quiet_of_ready (site : WaitSite) (code : ℤ) (cx : W) (reader : Bool)
    {w : World W} (hr : w.net.ready (wantDir code) = true) :
    ∃ w', pollSslReady site code cx reader (.quiet none) w = (w', .ready (.ok ())) ∧
      w'.net.ready (wantDir code) = false := by
  unfold wantDir at hr ⊢
  unfold pollSslReady pollClearReadReady pollClearWriteReady pollClearReady pollReady
  simp only [Wait.quiet, World.events_nil]
  split_ifs at hr ⊢ <;> simp_all [Net.apply]

/-- A read loop that ends, ends in the reply of its inbox. -/
theorem readLoop_reply (cx : W) {i : Inbox} (hcap : 0 < i.cap) {rounds : List (Round Chunk)}
    (ha : i.Answers rounds) (w : World W) :
    (readLoop cx i.cap rounds w).2 = .returned i.reply ∨
      (readLoop cx i.cap rounds w).2 = .running := by
  induction rounds generalizing w with
  | nil => exact Or.inr rfl
  | cons r rs ih =>
      obtain ⟨hans, hgone⟩ := ha r (by simp)
      have ih' := ih fun r' hr' => ha r' (by simp [hr'])
      rw [readLoop_cons cx hcap]
      rcases r with ⟨before, bs | ⟨n, code, diag⟩, wait⟩
      · simp [Inbox.reply, ← hans]
      · have hreply : i.reply = if code = sslErrorZeroReturn then .ready (.ok [])
            else if IsWant code then
              match i.gone with
              | some e => .ready (.error e)
              | none => .pending
            else .ready (.error (sslIoError "SSL_read" code diag)) := by
          unfold Inbox.reply
          rw [← hans]
        simp only
        split_ifs with hz hwant
        · exact Or.inl (by rw [hreply, if_pos hz])
        · rw [hreply, if_neg hz, if_pos hwant]
          set w₁ := (w.events before).call
            (.sslRead (min i.cap (2 ^ 31 - 1)) (.stopped n code diag)) with hw₁
          obtain ⟨herr, hok⟩ := pollSslReady_reply .read code cx true wait w₁
          simp only at hgone
          rw [hgone] at herr hok
          generalize pollSslReady .read code cx true wait w₁ = res at herr hok ⊢
          rcases hg : i.gone with _ | e
          · obtain ⟨w₂, p⟩ := res
            rcases hok hg with hp | hp <;> subst hp
            · have := ih' w₂
              rwa [hreply, if_neg hz, if_pos hwant, hg] at this
            · exact Or.inl rfl
          · obtain ⟨w₂, p⟩ := res
            obtain rfl : p = .ready (.error e) := herr e hg
            exact Or.inl rfl
        · exact Or.inl (by rw [hreply, if_neg hz, if_neg hwant])

/-- A turn that does not end the loop passes it on to the next one. -/
theorem readLoop_running_tail {cap : ℕ} (hcap : 0 < cap) {r : Round Chunk}
    {rs : List (Round Chunk)} (hrun : (readLoop cx cap (r :: rs) w).2 = .running) :
    ∃ w', (readLoop cx cap rs w').2 = .running := by
  rw [readLoop_cons cx hcap] at hrun
  rcases r with ⟨before, bs | ⟨n, code, diag⟩, wait⟩
  · cases hrun
  · simp only at hrun
    split_ifs at hrun
    generalize pollSslReady .read code cx true wait _ = res at hrun
    rcases res with ⟨w', ((e | ⟨⟨⟩⟩) | _)⟩
    · cases hrun
    · exact ⟨w', hrun⟩
    · cases hrun

/-- A quiet turn that finds the bit clear ends the loop. -/
theorem readLoop_quiet_of_clear {cap n : ℕ} {code : ℤ} {diag : SslDiag} (hcap : 0 < cap)
    (rs : List (Round Chunk)) (hready : w.net.ready (wantDir code) = false) :
    (readLoop cx cap (⟨[], .stopped n code diag, .quiet none⟩ :: rs) w).2 ≠ .running := by
  intro hrun
  rw [readLoop_cons cx hcap] at hrun
  simp only [World.events_nil] at hrun
  split_ifs at hrun
  have hp := pollSslReady_quiet_of_clear .read code cx true
    (w := w.call (.sslRead (min cap (2 ^ 31 - 1)) (.stopped n code diag))) hready
  generalize pollSslReady .read code cx true (.quiet none) _ = res at hp hrun
  obtain ⟨w₁, p⟩ := res
  subst hp
  cases hrun

/-- Two quiet turns end the loop: the first may find a stale ready bit, which it clears, and the
second then parks. -/
theorem readLoop_two_quiet {i : Inbox} (hcap : 0 < i.cap) (w : World W) :
    (readLoop cx i.cap [i.quiet, i.quiet] w).2 ≠ .running := by
  rcases i with ⟨cap, bs | ⟨n, code, diag⟩, _ | e⟩
  · rw [readLoop_cons cx hcap]
    simp [Inbox.quiet]
  · rw [readLoop_cons cx hcap]
    simp [Inbox.quiet]
  · rcases hready : w.net.ready (wantDir code) with _ | _
    · exact readLoop_quiet_of_clear hcap _ hready
    · intro hrun
      rw [readLoop_cons cx hcap] at hrun
      simp only [Inbox.quiet, World.events_nil] at hrun
      split_ifs at hrun
      obtain ⟨w₁, heq, hclear⟩ := pollSslReady_quiet_of_ready .read code cx true
        (w := w.call (.sslRead (min cap (2 ^ 31 - 1)) (.stopped n code diag))) hready
      rw [heq] at hrun
      exact readLoop_quiet_of_clear hcap [] hclear hrun
  · intro hrun
    rw [readLoop_cons cx hcap] at hrun
    simp only [Inbox.quiet, World.events_nil] at hrun
    split_ifs at hrun
    obtain ⟨herr, -⟩ := pollSslReady_reply .read code cx true (.quiet (some e))
      (w.call (.sslRead (min cap (2 ^ 31 - 1)) (.stopped n code diag)))
    generalize pollSslReady .read code cx true (.quiet (some e)) _ = res at herr hrun
    obtain ⟨w', p⟩ := res
    obtain rfl : p = .ready (.error e) := herr e rfl
    cases hrun

/-- **The read loop settles**, however often events have kept it going before. -/
theorem readLoop_settles {i : Inbox} (hcap : 0 < i.cap) {rs : List (Round Chunk)}
    (ha : i.Answers rs) (w : World W) :
    (readLoop cx i.cap (rs ++ [i.quiet, i.quiet]) w).2 = .returned i.reply := by
  have hans : i.Answers (rs ++ [i.quiet, i.quiet]) := by
    intro r hr
    rcases List.mem_append.mp hr with hr | hr
    · exact ha r hr
    · obtain rfl : r = i.quiet := by simpa using hr
      exact ⟨rfl, rfl⟩
  refine (readLoop_reply cx hcap hans w).resolve_right ?_
  clear ha hans
  induction rs generalizing w with
  | nil => exact readLoop_two_quiet hcap w
  | cons r rs ih =>
      intro hrun
      obtain ⟨w', hrun'⟩ := readLoop_running_tail hcap hrun
      exact ih w' hrun'

/-! ## One poll -/

/-- A userspace stream without a latched failure whose pending write, retried by this poll, does not
fail: it completes or stays blocked, after any number of rounds. -/
structure OutputUnfailing (cx : W) (drain : List (Round Unit)) (w : World W) : Prop where
  userspace : w.stream.ktlsActive = false
  unlatched : w.stream.writeError = none
  drained : (pollPendingWrite cx true drain w).2 = .returned (.ready (.ok ())) ∨
    (pollPendingWrite cx true drain w).2 = .returned .pending

/-- Whatever comes of the output, the read loop is entered. -/
theorem OutputUnfailing.pollRead_eq (abi : Abi) {cap : ℕ} (hcap : 0 < cap) {script : ReadScript}
    (ho : OutputUnfailing cx script.drain w) :
    ∃ w', pollRead abi cx cap script w = readLoop cx cap script.read w' := by
  unfold pollRead
  rw [if_neg (by omega), ho.userspace]
  have hd := ho.drained
  generalize pollPendingWrite cx true script.drain w = res at hd ⊢
  obtain ⟨w', x⟩ := res
  rcases hd with hx | hx <;> subst hx <;> exact ⟨w', rfl⟩

/-- The result of a poll is the reply of its inbox. -/
theorem pollRead_settles (abi : Abi) {i : Inbox} (hcap : 0 < i.cap) {script : ReadScript}
    (ho : OutputUnfailing cx script.drain w) {rs : List (Round Chunk)} (ha : i.Answers rs)
    (hread : script.read = rs ++ [i.quiet, i.quiet]) :
    (pollRead abi cx i.cap script w).2 = .returned i.reply := by
  obtain ⟨w', heq⟩ := ho.pollRead_eq abi hcap
  rw [heq, hread]
  exact readLoop_settles hcap ha w'

/-- With application data at hand the first turn returns it. -/
theorem pollRead_of_data (abi : Abi) {cap : ℕ} (hcap : 0 < cap) {script : ReadScript}
    (ho : OutputUnfailing cx script.drain w) {r : Round Chunk} {rs : List (Round Chunk)} {bs : Chunk}
    (hread : script.read = r :: rs) (hdata : r.answer = .done bs) :
    (pollRead abi cx cap script w).2 =
      .returned (.ready (.ok (bs.1.take (min cap (2 ^ 31 - 1))))) := by
  obtain ⟨w', heq⟩ := ho.pollRead_eq abi hcap
  rw [heq, hread, readLoop_cons cx hcap, hdata]

/-! ## Whole runs -/

/-- The inboxes of the reads of a run, in order. -/
inductive Reads : List (Op W) → List Inbox → Prop
  | nil : Reads [] []
  | read {cx : W} {script : ReadScript} {i : Inbox} {ops : List (Op W)} {is : List Inbox}
      (ha : i.Answers script.read) (hr : Reads ops is) :
      Reads (.read cx i.cap script :: ops) (i :: is)
  | other {op : Op W} {ops : List (Op W)} {is : List Inbox}
      (hop : ∀ cx cap script, op ≠ .read cx cap script) (hr : Reads ops is) :
      Reads (op :: ops) is

/-- The data path is chosen once. -/
theorem Turn.userspace (ht : Turn w w') (hk : w.stream.ktlsActive = false) :
    w'.stream.ktlsActive = false :=
  ht.preserves (I := fun w => w.stream.ktlsActive = false) (fun _ _ hk => hk)
    (fun _ _ _ _ hst hk => hst.ktlsActive.trans hk) hk

/-- An operation that leaves no failure latched started without one. -/
theorem Turn.unlatched (ht : Turn w w') (he : w'.stream.writeError = none) :
    w.stream.writeError = none := by
  by_contra hne
  exact hne ((ht.frozen hne).writeError ▸ he)

/-- So did every operation before it. -/
theorem run_unlatched (abi : Abi) {s : Session W} (hc : Coherent s.world) (ops : List (Op W))
    (he : (Session.run abi s ops).world.stream.writeError = none) :
    s.world.stream.writeError = none := by
  by_contra hne
  refine run_invariant abi (I := fun w => w.stream.writeError ≠ none) ?_ hc hne ops he
  intro w w' _ ht hw
  rw [(ht.frozen hw).writeError]
  exact hw

/-- An empty buffer receives nothing. -/
theorem Inbox.delivers_of_cap_zero {i : Inbox} (hcap : i.cap = 0) : i.delivers = [] := by
  unfold delivers reply
  rcases i.answer with bs | ⟨n, code, diag⟩
  · simp [deliveredBy, hcap]
  · simp only
    split_ifs
    · rfl
    · rcases i.gone with _ | e <;> rfl
    · rfl

/-- A poll of an unlatched userspace stream that returns and latches nothing delivers what its inbox
holds. -/
theorem pollRead_delivers (abi : Abi) {i : Inbox} {script : ReadScript}
    (hk : w.stream.ktlsActive = false) (hun : w.stream.writeError = none)
    (ha : i.Answers script.read) {w' : World W} {p : Poll (IoResult Bytes)}
    (hr : pollRead abi cx i.cap script w = (w', .returned p)) (he : w'.stream.writeError = none) :
    deliveredBy (.returned p) = i.delivers := by
  rcases Nat.eq_zero_or_pos i.cap with hcap | hcap
  · unfold pollRead at hr
    simp only [if_pos hcap, Prod.mk.injEq, Exit.returned.injEq] at hr
    rw [Inbox.delivers_of_cap_zero hcap, ← hr.2]
    rfl
  -- the output did not fail, or the failure would be latched
  have hunfailing : OutputUnfailing cx script.drain w := by
    refine ⟨hk, hun, ?_⟩
    have hd := pollPendingWrite_spec cx true script.drain
      (fun hk' => absurd (hk.symm.trans hk') (by simp)) hun
    unfold pollRead at hr
    rw [if_neg (by omega), hk] at hr
    generalize pollPendingWrite cx true script.drain w = res at hd hr ⊢
    obtain ⟨w₁, (((e | ⟨⟨⟩⟩) | _) | _ | _)⟩ := res
    · simp only [Bool.false_eq_true, if_false, Prod.mk.injEq] at hr
      have hlatched := hd.latched e rfl
      rw [hr.1, he] at hlatched
      cases hlatched
    · exact Or.inl rfl
    · exact Or.inr rfl
    · simp at hr
    · simp at hr
  obtain ⟨w₁, heq⟩ := hunfailing.pollRead_eq abi hcap
  rw [heq] at hr
  rcases readLoop_reply cx hcap ha w₁ with hreply | hrun
  · rw [hr] at hreply
    rw [Inbox.delivers, ← hreply]
  · rw [hr] at hrun
    cases hrun

/-- A read that completes without latching a failure delivers what its inbox holds. -/
theorem read_delivers (abi : Abi) {s : Session W} {i : Inbox} {script : ReadScript}
    (hk : s.world.stream.ktlsActive = false) (ha : i.Answers script.read)
    (hdone : (s.step abi (.read cx i.cap script)).2 = true)
    (he : (s.step abi (.read cx i.cap script)).1.world.stream.writeError = none) :
    (s.step abi (.read cx i.cap script)).1.delivered = s.delivered ++ i.delivers := by
  have hun : s.world.stream.writeError = none :=
    (step_turn abi s _ fun hk' => absurd (hk.symm.trans hk') (by simp)).unlatched he
  unfold Session.step at hdone he ⊢
  simp only at hdone he ⊢
  rcases hr : pollRead abi cx i.cap script (s.world.signal (.called .reader cx)) with ⟨w', x⟩
  rw [hr] at hdone he
  cases x with
  | returned p =>
      have he' : w'.stream.writeError = none := by simpa [finish] using he
      rw [pollRead_delivers abi (by exact hk) (by exact hun) ha hr he']
  | panicked => cases hdone
  | running => cases hdone

/-- **The bytes a run delivers** are those of its inboxes, in order. -/
theorem run_delivers (abi : Abi) {ops : List (Op W)} {is : List Inbox} (hr : Reads ops is)
    {s : Session W} (hk : s.world.stream.ktlsActive = false)
    (hdone : (Lib.Runs.exec (Session.step abi) s ops).2 = true)
    (he : (Session.run abi s ops).world.stream.writeError = none) :
    (Session.run abi s ops).delivered = s.delivered ++ is.flatMap Inbox.delivers := by
  have hcoh : ∀ {s : Session W}, s.world.stream.ktlsActive = false → Coherent s.world :=
    fun hk hk' => absurd (hk.symm.trans hk') (by simp)
  -- the first operation completes, keeps the data path, and leaves a run that completes
  have hfirst : ∀ {s : Session W} {op : Op W} {ops : List (Op W)},
      s.world.stream.ktlsActive = false →
      (Lib.Runs.exec (Session.step abi) s (op :: ops)).2 = true →
      (s.step abi op).2 = true ∧ (s.step abi op).1.world.stream.ktlsActive = false ∧
        Lib.Runs.exec (Session.step abi) s (op :: ops) =
          Lib.Runs.exec (Session.step abi) (s.step abi op).1 ops := by
    intro s op ops hk hdone
    simp only [Lib.Runs.exec] at hdone ⊢
    split_ifs at hdone with hstep
    · exact ⟨hstep, (step_turn abi s op (hcoh hk)).userspace hk, by rw [if_pos hstep]⟩
  induction hr generalizing s with
  | nil => simp [Session.run, Lib.Runs.exec]
  | @read cx script i ops is ha _ ih =>
      obtain ⟨hstep, hk', heq⟩ := hfirst hk hdone
      unfold Session.run at he ih ⊢
      rw [heq] at hdone he ⊢
      have he' := run_unlatched abi (hcoh hk') ops he
      rw [ih hk' hdone he, read_delivers abi hk ha hstep he', List.flatMap_cons,
        List.append_assoc]
  | @other op ops is hop _ ih =>
      obtain ⟨hstep, hk', heq⟩ := hfirst hk hdone
      unfold Session.run at he ih ⊢
      rw [heq] at hdone he ⊢
      have hsame : (s.step abi op).1.delivered = s.delivered := by
        cases op with
        | read cx cap script => exact absurd rfl (hop cx cap script)
        | write cx buf script => rfl
        | flush cx script => rfl
        | shutdown cx script => rfl
        | event d => rfl
      rw [ih hk' hdone he, hsame]

/-! ## The result -/

/-- Inbound progress on the userspace path. -/
structure InboundProgress (W : Type) [DecidableEq W] (abi : Abi) : Prop where
  /-- Any two polls of one stream state with the same inbound side, and any two courses of the
  pending output that do not fail, have the same result: the reply of the inbox. -/
  one_poll : ∀ (cx : W) (i : Inbox) (s₁ s₂ : ReadScript) (rs₁ rs₂ : List (Round Chunk))
    (w : World W), 0 < i.cap →
    OutputUnfailing cx s₁.drain w → i.Answers rs₁ → s₁.read = rs₁ ++ [i.quiet, i.quiet] →
    OutputUnfailing cx s₂.drain w → i.Answers rs₂ → s₂.read = rs₂ ++ [i.quiet, i.quiet] →
      (pollRead abi cx i.cap s₁ w).2 = .returned i.reply ∧
        (pollRead abi cx i.cap s₁ w).2 = (pollRead abi cx i.cap s₂ w).2
  /-- Two peers that both have application data at hand both read some of it, whatever becomes of
  their pending output. -/
  progress : ∀ (cx₁ cx₂ : W) (cap₁ cap₂ : ℕ) (s₁ s₂ : ReadScript) (r₁ r₂ : Round Chunk)
    (rs₁ rs₂ : List (Round Chunk)) (bs₁ bs₂ : Chunk) (w₁ w₂ : World W), 0 < cap₁ → 0 < cap₂ →
    OutputUnfailing cx₁ s₁.drain w₁ → s₁.read = r₁ :: rs₁ → r₁.answer = .done bs₁ →
    OutputUnfailing cx₂ s₂.drain w₂ → s₂.read = r₂ :: rs₂ → r₂.answer = .done bs₂ →
      (∃ data, (pollRead abi cx₁ cap₁ s₁ w₁).2 = .returned (.ready (.ok data)) ∧ data ≠ [] ∧
        data <+: bs₁.1) ∧
      ∃ data, (pollRead abi cx₂ cap₂ s₂ w₂).2 = .returned (.ready (.ok data)) ∧ data ≠ [] ∧
        data <+: bs₂.1
  /-- Two completed runs whose reads see the same inboxes, and whose output has not failed, deliver
  the same bytes. -/
  runs : ∀ (s₁ s₂ : Session W) (ops₁ ops₂ : List (Op W)) (is : List Inbox),
    s₁.world.stream.ktlsActive = false → s₂.world.stream.ktlsActive = false →
    s₁.delivered = s₂.delivered → Reads ops₁ is → Reads ops₂ is →
    (Lib.Runs.exec (Session.step abi) s₁ ops₁).2 = true →
    (Lib.Runs.exec (Session.step abi) s₂ ops₂).2 = true →
    (Session.run abi s₁ ops₁).world.stream.writeError = none →
    (Session.run abi s₂ ops₂).world.stream.writeError = none →
      (Session.run abi s₁ ops₁).delivered = (Session.run abi s₂ ops₂).delivered

/-- A non-empty buffer takes a non-empty part of the data. -/
theorem pollRead_progress (abi : Abi) {cap : ℕ} (hcap : 0 < cap) {script : ReadScript}
    (ho : OutputUnfailing cx script.drain w) {r : Round Chunk} {rs : List (Round Chunk)} {bs : Chunk}
    (hread : script.read = r :: rs) (hdata : r.answer = .done bs) :
    ∃ data, (pollRead abi cx cap script w).2 = .returned (.ready (.ok data)) ∧ data ≠ [] ∧
      data <+: bs.1 := by
  refine ⟨_, pollRead_of_data abi hcap ho hread hdata, ?_, List.take_prefix _ _⟩
  have hlen : 0 < bs.1.length := List.length_pos_iff.mpr bs.2
  rw [← List.length_pos_iff, List.length_take]
  omega

/-- **Inbound progress is independent of outbound backpressure.** -/
theorem inbound_progress (abi : Abi) : InboundProgress W abi where
  one_poll := by
    intro cx i s₁ s₂ rs₁ rs₂ w hcap ho₁ ha₁ hr₁ ho₂ ha₂ hr₂
    have h₁ := pollRead_settles abi hcap ho₁ ha₁ hr₁
    have h₂ := pollRead_settles abi hcap ho₂ ha₂ hr₂
    exact ⟨h₁, h₁.trans h₂.symm⟩
  progress := by
    intro cx₁ cx₂ cap₁ cap₂ s₁ s₂ r₁ r₂ rs₁ rs₂ bs₁ bs₂ w₁ w₂ hc₁ hc₂ ho₁ hr₁ hd₁ ho₂ hr₂ hd₂
    exact ⟨pollRead_progress abi hc₁ ho₁ hr₁ hd₁, pollRead_progress abi hc₂ ho₂ hr₂ hd₂⟩
  runs := by
    intro s₁ s₂ ops₁ ops₂ is hk₁ hk₂ hsame hr₁ hr₂ hd₁ hd₂ he₁ he₂
    rw [run_delivers abi hr₁ hk₁ hd₁ he₁, run_delivers abi hr₂ hk₂ hd₂ he₂, hsame]

/-- A stream with a blocked write and a full socket still reads. -/
example : (pollRead ⟨17, 24, by decide, by decide⟩ () 1
    ⟨[⟨[], .stopped 1 sslErrorWantWrite ⟨0, 0, ""⟩, .quiet none⟩],
      [⟨[], .done ⟨[7, 8], by decide⟩, .quiet none⟩], [], []⟩
    ((World.fromParts false (Net.fresh (fun _ => false) (fun _ => none))).setPending [1])).2 =
      .returned (.ready (.ok [7])) := rfl

end TokioAwsLc.Stream
