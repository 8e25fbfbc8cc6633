import TokioAwsLc.Ktls.RecordQueue

/-!
# The reader's result does not depend on the schedule

A reader polls a queue of records to its end. The kernel may cut the records anywhere, join
application data, interrupt, and not be ready; the caller may pass any buffer and drop any pending
read; the loop may run out of its budget. None of it shows: what was delivered and how the stream
ended is `plaintext` and `verdict` of the queue.

* `restore held ks`: the queue with the alert byte that the reader holds put back.
* `Serving r rest ks bytes`: a live reader, with `rest` still in the kernel, has delivered `bytes` of
  the queue `ks`. Everything else is one step of this relation: `expect_deliver` for a fragment,
  `readLoop_serves` and `pollRead_serves` for a poll, `readAll_serves` for a schedule.
* `schedule_independent` is the result, with the bound after which every schedule has ended.
-/

namespace TokioAwsLc.Ktls

/-! ## A fragment of the queue -/

/-- The queue with the held alert byte put back in front of its record. -/
def restore : Option UInt8 → List Record → List Record
  | some l, r :: ks => { r with payload := l :: r.payload } :: ks
  | _, ks => ks

/-- A reader that holds a byte is in the middle of an alert. -/
def Midway (held : Option UInt8) (ks : List Record) : Prop :=
  held ≠ none → ∃ p rest, p ≠ [] ∧ ks = ⟨alertType, p⟩ :: rest

/-- What the table makes of a fragment agrees with the meaning of the queue it came from. -/
def Agrees (ks : List Record) (f : Fragment) (rest : List Record) : Expected → Prop
  | .data _ => f.payload ≠ [] ∧ plaintext ks = f.payload ++ plaintext rest ∧ verdict ks = verdict rest
  | .more kept => Midway kept rest ∧ plaintext ks = plaintext (restore kept rest) ∧
      verdict ks = verdict (restore kept rest)
  | .eof => plaintext ks = [] ∧ verdict ks = .eof
  | .fail kind => plaintext ks = [] ∧ verdict ks = .failed kind

/-- `MSG_EOR` as the queue sets it. -/
theorem endOfRecord_ite (eor : Bool) :
    EndOfRecord (if eor then msgEor else 0) ↔ eor = true := by
  cases eor <;> decide

/-- A close_notify in the words of the table. -/
theorem isCloseNotify_iff {payload : Bytes} :
    IsCloseNotify payload ↔ ∃ l, IsLevel l ∧ payload = [l, 0] := by
  unfold IsCloseNotify IsLevel
  grind

/-- What an alert record makes of the stream. -/
theorem verdict_alert (p : Bytes) (ks : List Record) :
    verdict (⟨alertType, p⟩ :: ks) = if IsCloseNotify p then .eof else .failed .invalidData := by
  have happ : alertType ≠ applicationData := by decide
  have hne : alertType ≠ handshakeType := by decide
  rw [verdict_control happ]
  simp [Record.verdict, hne]

/-- Alert bytes that fail are invalid, and neither a whole close_notify nor the first byte of a longer
alert. -/
theorem expectAlert_fail {eor : Prop} [Decidable eor] {bytes : Bytes} {kind : ErrorKind}
    (h : expectAlert eor bytes = .fail kind) :
    kind = .invalidData ∧ (eor → ¬ IsCloseNotify bytes) ∧ (¬ eor → bytes.length ≠ 1) := by
  rw [isCloseNotify_iff]
  rcases bytes with _ | ⟨l, _ | ⟨d, _ | ⟨x, rest⟩⟩⟩ <;> simp only [expectAlert] at h <;> grind

/-- The first `n` bytes of the rest of an alert: `held` is what came before, `p` what is left of it in
the kernel. -/
theorem expectAlert_agrees {held : Option UInt8} {p : Bytes} (hp : p ≠ []) {n : ℕ} (hn : 0 < n)
    (ks : List Record) (f : Fragment) {rest : List Record} (eor : Prop) [Decidable eor]
    (heor : eor ↔ p.length ≤ n) (hrest : n < p.length → rest = ⟨alertType, p.drop n⟩ :: ks) :
    Agrees (⟨alertType, held.toList ++ p⟩ :: ks) f rest
      (expectAlert eor (held.toList ++ p.take n)) := by
  have happ : alertType ≠ applicationData := by decide
  have htake : (p.take n).length = min n p.length := List.length_take
  have hpos : 0 < p.length := List.length_pos_iff.mpr hp
  -- a fragment that ends the record is all that was left of it
  have hall : eor → p.take n = p := fun h => List.take_of_length_le (heor.mp h)
  rcases hx : expectAlert eor (held.toList ++ p.take n) with m | kept | _ | kind
  · exact absurd hx expectAlert_ne_data
  · obtain ⟨l, rfl, hbytes, hne⟩ := expectAlert_more_iff.mp hx
    have hlt : n < p.length := not_le.mp (mt heor.mpr hne)
    have hheld : held = none := by
      rcases held with _ | b
      · rfl
      · have := congrArg List.length hbytes
        simp only [List.length_append, Option.toList_some, List.length_cons, List.length_nil,
          htake] at this
        omega
    subst hheld
    have hone : p.take n = [l] := hbytes
    have hback : l :: p.drop n = p := by
      rw [← List.singleton_append, ← hone, List.take_append_drop]
    rw [hrest hlt]
    refine ⟨fun _ => ⟨p.drop n, ks, by simpa using hlt, rfl⟩, ?_, ?_⟩
    · simp only [restore, hback]
      rfl
    · simp only [restore, hback]
      rfl
  · obtain ⟨l, hl, hbytes, he⟩ := expectAlert_eof_iff.mp hx
    rw [hall he] at hbytes
    refine ⟨plaintext_control happ, ?_⟩
    rw [verdict_alert, if_pos (isCloseNotify_iff.mpr ⟨l, hl, hbytes⟩)]
  · obtain ⟨rfl, hwhole, hfirst⟩ := expectAlert_fail hx
    refine ⟨plaintext_control happ, ?_⟩
    rw [verdict_alert, if_neg]
    intro hclose
    by_cases he : eor
    · rw [hall he] at hwhole
      exact hwhole he hclose
    · -- less than the whole of a two-byte alert is its first byte
      have htwo : (held.toList ++ p).length = 2 := by
        rcases hclose with h | h <;> rw [h] <;> rfl
      refine hfirst he ?_
      have hlt : n < p.length := not_le.mp (mt heor.mpr he)
      rcases held with _ | b
      · simp [htake] at htwo ⊢
        omega
      · simp at htwo
        omega

/-- A live reader's held byte goes back in front of the rest of its alert. -/
theorem Midway.cases {held : Option UInt8} {r : Record} {ks : List Record}
    (hm : Midway held (r :: ks)) :
    held = none ∨ r.recordType = alertType ∧ r.payload ≠ [] := by
  rcases held with _ | l
  · exact .inl rfl
  · obtain ⟨p, rest, hp, hks⟩ := hm (by simp)
    rw [List.cons.injEq] at hks
    rw [hks.1]
    exact .inr ⟨rfl, hp⟩

/-- The FIN comes to a reader that holds no byte. -/
theorem expect_deliver_fin {held : Option UInt8} (hm : Midway held []) (d : Delivery) (capacity : ℕ) :
    Agrees (restore held []) (deliver d capacity []).1 (deliver d capacity []).2
      (expect held (deliver d capacity []).1) := by
  have hheld : held = none := by
    by_contra hne
    obtain ⟨p, rest, -, hks⟩ := hm hne
    simp at hks
  have hx : expect none ⟨none, 0, []⟩ = .fail .unexpectedEof := by decide
  subst hheld
  simp only [deliver, hx]
  exact ⟨rfl, rfl⟩

/-- A record without payload is skipped if it is application data, and rejected otherwise. -/
theorem expect_deliver_empty {held : Option UInt8} {r : Record} {ks : List Record}
    (hm : Midway held (r :: ks)) (hp : r.payload = []) (d : Delivery) (capacity : ℕ) :
    Agrees (restore held (r :: ks)) (deliver d capacity (r :: ks)).1 (deliver d capacity (r :: ks)).2
      (expect held (deliver d capacity (r :: ks)).1) := by
  have hheld : held = none := hm.cases.resolve_right fun h => h.2 hp
  subst hheld
  simp only [deliver, if_pos hp]
  by_cases ht : r.recordType = applicationData
  · have hx : expect none ⟨some applicationData, msgEor, []⟩ = .more none := by decide
    rw [ht, hx]
    refine ⟨fun h => absurd rfl h, ?_, verdict_cons ht⟩
    simp [restore, plaintext_cons ht, hp]
  · have hx : expect none ⟨some r.recordType, msgEor, []⟩ = .fail .invalidData := by
      have : ¬ Truncated msgEor := by decide
      simp [expect, this, ht]
    rw [hx]
    refine ⟨plaintext_control ht, ?_⟩
    simp [restore, verdict_control ht, Record.verdict, IsCloseNotify, hp]

/-- Application data is delivered, with or without its type. -/
theorem expect_deliver_data {held : Option UInt8} {r : Record} {ks : List Record}
    (hm : Midway held (r :: ks)) (hp : r.payload ≠ []) (happ : r.recordType = applicationData)
    (d : Delivery) {capacity : ℕ} (hsize : 0 < d.size capacity) :
    Agrees (restore held (r :: ks)) (deliver d capacity (r :: ks)).1 (deliver d capacity (r :: ks)).2
      (expect held (deliver d capacity (r :: ks)).1) := by
  have htr := deliver_not_truncated d capacity (r :: ks)
  have hne := gather_ne_nil d.further hsize ks hp
  simp only [deliver, if_neg hp] at htr ⊢
  have hheld : held = none := hm.cases.resolve_right fun h => by
    rw [happ] at h
    exact absurd h.1 (by decide)
  have htype : (if r.recordType = applicationData ∧ d.cmsg = .absent then none
      else some r.recordType) = none ∨ (if r.recordType = applicationData ∧ d.cmsg = .absent then none
      else some r.recordType) = some applicationData := by
    split_ifs
    · exact .inl rfl
    · exact .inr (congrArg some happ)
  obtain ⟨hplain, hverdict⟩ := gather_data happ
  rw [expect_data_iff.mpr ⟨hheld, htr, hne, rfl, htype⟩, hheld]
  exact ⟨hne, hplain, hverdict⟩

/-- A fragment of an alert is put behind the byte that is held; any other control record is rejected. -/
theorem expect_deliver_control {held : Option UInt8} {r : Record} {ks : List Record}
    (hm : Midway held (r :: ks)) (hp : r.payload ≠ []) (happ : r.recordType ≠ applicationData)
    (d : Delivery) {capacity : ℕ} (hsize : 0 < d.size capacity) :
    Agrees (restore held (r :: ks)) (deliver d capacity (r :: ks)).1 (deliver d capacity (r :: ks)).2
      (expect held (deliver d capacity (r :: ks)).1) := by
  have htr := deliver_not_truncated d capacity (r :: ks)
  have hne := gather_ne_nil d.further hsize ks hp
  simp only [deliver, if_neg hp] at htr ⊢
  rw [gather_control happ] at htr hne ⊢
  simp only [happ, false_and, if_false] at htr ⊢
  by_cases hal : r.recordType = alertType
  · obtain ⟨t, p⟩ := r
    obtain rfl : t = alertType := hal
    have hback : restore held (⟨alertType, p⟩ :: ks) = ⟨alertType, held.toList ++ p⟩ :: ks := by
      cases held <;> rfl
    rw [expect_alert rfl htr hne, hback]
    refine expectAlert_agrees hp hsize ks _ _ ?_ (fun hlt => if_pos hlt)
    rw [endOfRecord_ite, decide_eq_true_eq]
  · have hheld : held = none := hm.cases.resolve_right fun h => hal h.1
    subst hheld
    rw [expect_control htr hne rfl happ hal]
    refine ⟨plaintext_control happ, (verdict_control happ).trans ?_⟩
    unfold Record.verdict
    simp only [hal, false_and, if_false, hp, ne_eq, not_false_eq_true, and_true]
    exact (apply_ite Verdict.failed _ _ _).symm

/-- **Step lemma.** What the table makes of the next fragment of the queue agrees with the meaning of
the queue. -/
theorem expect_deliver {held : Option UInt8} {ks : List Record} (hm : Midway held ks)
    (d : Delivery) (capacity : ℕ) :
    Agrees (restore held ks) (deliver d capacity ks).1 (deliver d capacity ks).2
      (expect held (deliver d capacity ks).1) := by
  have hsize : 0 < d.size capacity := by
    unfold Delivery.size
    omega
  rcases ks with _ | ⟨r, ks⟩
  · exact expect_deliver_fin hm d capacity
  by_cases hp : r.payload = []
  · exact expect_deliver_empty hm hp d capacity
  by_cases happ : r.recordType = applicationData
  · exact expect_deliver_data hm hp happ d hsize
  · exact expect_deliver_control hm hp happ d hsize

/-! ## A poll -/

/-- A live reader, with `rest` still in the kernel, has delivered `bytes` of the queue `ks`. -/
def Serving (r : RecordReader) (rest ks : List Record) (bytes : Bytes) : Prop :=
  ∃ held, Holds r held ∧ Midway held rest ∧
    plaintext ks = bytes ++ plaintext (restore held rest) ∧ verdict ks = verdict (restore held rest)

/-- A fresh reader has delivered nothing. -/
theorem serving_default (ks : List Record) : Serving RecordReader.default ks ks [] :=
  ⟨none, holds_default, nofun, rfl, rfl⟩

/-- **Step lemma for the reader.** What it makes of the next fragment is right for the queue. -/
theorem Serving.feed_deliver {r : RecordReader} {rest ks : List Record} (h : Serving r rest ks [])
    (d : Delivery) (capacity : ℕ) {f : Fragment} {rest' : List Record}
    (hf : deliver d capacity rest = (f, rest')) :
    (r.feed f = (r, .returned (.ok (.data f.payload.length))) ∧ f.payload ≠ [] ∧
        Serving r rest' ks f.payload) ∨
      ((r.feed f).2 = .returned (.ok .more) ∧ rest ≠ [] ∧ Serving (r.feed f).1 rest' ks []) ∨
      ((r.feed f).2 = .returned (.ok .eof) ∧ plaintext ks = [] ∧ verdict ks = .eof) ∨
      ∃ e, (r.feed f).2 = .returned (.error e) ∧ plaintext ks = [] ∧
        verdict ks = .failed e.kind := by
  obtain ⟨held, hheld, hmid, hplain, hverdict⟩ := h
  rw [List.nil_append] at hplain
  have hmeets := consume_expect hheld f
  have hag := expect_deliver hmid d capacity
  rw [hf] at hag
  rcases hx : expect held f with n | kept | _ | kind
  · rw [hx] at hag hmeets
    obtain ⟨rfl, -, hne, rfl, -⟩ := expect_data_iff.mp hx
    exact .inl ⟨hmeets, hne, none, hheld, nofun, hplain.trans hag.2.1, hverdict.trans hag.2.2⟩
  · rw [hx] at hag hmeets
    refine .inr (.inl ⟨hmeets.1, ?_, kept, hmeets.2, hag.1, hplain.trans hag.2.1,
      hverdict.trans hag.2.2⟩)
    rintro rfl
    obtain ⟨rfl, -⟩ := Prod.mk.inj hf
    obtain ⟨-, -, ⟨-, -, ht⟩ | ⟨l, -, hal⟩⟩ := expect_more_iff.mp hx
    · simp at ht
    · simpa using hal.type
  · rw [hx] at hag hmeets
    exact .inr (.inr (.inl ⟨hmeets.1, hplain.trans hag.1, hverdict.trans hag.2⟩))
  · rw [hx] at hag hmeets
    obtain ⟨e, hout, rfl, -⟩ := hmeets
    exact .inr (.inr (.inr ⟨e, hout, hplain.trans hag.1, hverdict.trans hag.2⟩))

/-- What a poll returns is right for the queue `ks`. -/
def Serves (ks : List Record) : RecordReader × Socket × Exit (Poll (IoResult Bytes)) → Prop
  | (r, k, .returned .pending) => Serving r k.records ks []
  | (_, _, .returned (.ready (.ok []))) => plaintext ks = [] ∧ verdict ks = .eof
  | (r, k, .returned (.ready (.ok (b :: bs)))) => Serving r k.records ks (b :: bs)
  | (_, _, .returned (.ready (.error e))) => plaintext ks = [] ∧ verdict ks = .failed e.kind
  | (_, _, .panicked) => False
  | (_, _, .running) => False

/-- Delivered bytes are right whatever they are, as long as there are some. -/
theorem serves_data {ks : List Record} {r : RecordReader} {k : Socket} {bytes : Bytes}
    (hne : bytes ≠ []) (h : Serving r k.records ks bytes) :
    Serves ks (r, k, .returned (.ready (.ok bytes))) := by
  rcases bytes with _ | ⟨b, bs⟩
  · exact absurd rfl hne
  · exact h

/-- **Run lemma for the loop**, by induction on the budget: no iteration loses or adds a byte. -/
theorem readLoop_serves (abi : Abi) {capacity : ℕ} (hcap : 0 < capacity) (budget : ℕ)
    {r : RecordReader} {k : Socket} {ks : List Record} (h : Serving r k.records ks []) :
    Serves ks (RecordReader.readLoop abi (Socket.env abi) capacity budget r k) := by
  induction budget generalizing r k with
  | zero => exact h
  | succ budget ih =>
      unfold RecordReader.readLoop
      have hrecv := k.tryRecvmsg_cases abi hcap
      rw [show (Socket.env abi).tryRecvmsg k capacity = k.tryRecvmsg abi capacity from rfl]
      generalize k.tryRecvmsg abi capacity = res at hrecv ⊢
      obtain ⟨k₁, got⟩ := res
      obtain ⟨hrec, e, he, hkind⟩ | ⟨d, hrec, hok⟩ := hrecv
      · -- nothing was received
        have h₁ : Serving r k₁.records ks [] := by
          rw [hrec]
          exact h
        simp only [he]
        by_cases hint : e.kind = .interrupted
        · rw [if_pos hint]
          exact ih h₁
        · rw [if_neg hint, if_pos (hkind.resolve_left hint)]
          obtain ⟨hrec₂, hready⟩ := k₁.pollReadReady_cases
          rw [show (Socket.env abi).pollReadReady k₁ = k₁.pollReadReady from rfl]
          generalize k₁.pollReadReady = res at hrec₂ hready ⊢
          obtain ⟨k₂, ready⟩ := res
          have h₂ : Serving r k₂.records ks [] := by
            rw [hrec₂]
            exact h₁
          obtain rfl | rfl := hready
          · exact h₂
          · exact ih h₂
      · -- a fragment was received
        generalize hf : deliver d capacity k.records = fr at hrec hok
        obtain ⟨f, rest'⟩ := fr
        obtain rfl : k₁.records = rest' := hrec
        simp only [hok]
        have hstep := h.feed_deliver d capacity hf
        rw [show r.consume f.recordType f.flags f.payload = r.feed f from rfl]
        generalize r.feed f = res at hstep ⊢
        obtain ⟨r', exit⟩ := res
        obtain ⟨hdata, hne, h'⟩ | ⟨hout, -, h'⟩ | ⟨hout, h'⟩ | ⟨e, hout, h'⟩ := hstep
        · obtain ⟨rfl, rfl⟩ := Prod.mk.inj hdata
          simp only [List.take_length]
          exact serves_data hne h'
        · obtain rfl : exit = _ := hout
          exact ih h'
        · obtain rfl : exit = _ := hout
          exact h'
        · obtain rfl : exit = _ := hout
          exact h'

/-- A poll of a live reader. -/
theorem pollRead_serves (abi : Abi) {capacity : ℕ} (hcap : 0 < capacity) {r : RecordReader}
    {k : Socket} {ks : List Record} (h : Serving r k.records ks []) :
    Serves ks (RecordReader.pollRead abi (Socket.env abi) capacity r k) := by
  obtain ⟨held, hheld, -⟩ := id h
  unfold RecordReader.pollRead
  rw [finished_eq_none_iff.mpr hheld.1]
  simp only [if_neg hcap.ne']
  exact readLoop_serves abi hcap _ h

/-- The loop never puts anything back. -/
theorem readLoop_backlog (abi : Abi) {capacity : ℕ} (hcap : 0 < capacity) (budget : ℕ)
    (r : RecordReader) (k : Socket) :
    backlog (RecordReader.readLoop abi (Socket.env abi) capacity budget r k).2.1.records ≤
      backlog k.records := by
  refine RecordReader.readLoop_preserves (I := fun k' : Socket => backlog k'.records ≤ backlog k.records)
    ?_ ?_ (fun _ => id) budget r le_rfl
  · intro k' hk'
    refine le_trans ?_ hk'
    obtain ⟨hrec, -⟩ | ⟨d, hrec, -⟩ := k'.tryRecvmsg_cases abi hcap
    · exact (congrArg backlog hrec).le
    · refine (congrArg backlog hrec).trans_le ?_
      by_cases hks : k'.records = []
      · simp [hks, deliver]
      · exact (deliver_backlog d capacity hks).le
  · intro k' hk'
    exact (congrArg backlog k'.pollReadReady_cases.1).trans_le hk'

/-- A poll that begins with a fragment ends the stream or gets on with the queue. -/
theorem pollRead_backlog (abi : Abi) {capacity : ℕ} (hcap : 0 < capacity) {r : RecordReader}
    {k : Socket} {ks : List Record} (h : Serving r k.records ks []) {d : Delivery}
    (hd : k.receives.head? = some (.fragment d)) :
    (RecordReader.pollRead abi (Socket.env abi) capacity r k).2.2 = .returned (.ready (.ok [])) ∨
      (∃ e, (RecordReader.pollRead abi (Socket.env abi) capacity r k).2.2 =
        .returned (.ready (.error e))) ∨
      backlog (RecordReader.pollRead abi (Socket.env abi) capacity r k).2.1.records <
        backlog k.records := by
  obtain ⟨held, hheld, -⟩ := id h
  unfold RecordReader.pollRead
  rw [finished_eq_none_iff.mpr hheld.1]
  simp only [if_neg hcap.ne', ioBudget]
  unfold RecordReader.readLoop
  rw [show (Socket.env abi).tryRecvmsg k capacity = k.tryRecvmsg abi capacity from rfl]
  obtain ⟨hrec, hok⟩ := Socket.tryRecvmsg_fragment abi hcap hd
  generalize k.tryRecvmsg abi capacity = res at hrec hok ⊢
  obtain ⟨k₁, got⟩ := res
  generalize hf : deliver d capacity k.records = fr at hrec hok
  obtain ⟨f, rest'⟩ := fr
  obtain rfl : k₁.records = rest' := hrec
  have hlt : k.records ≠ [] → backlog k₁.records < backlog k.records := by
    intro hks
    have := deliver_backlog d capacity hks
    rwa [hf] at this
  simp only [hok]
  have hstep := h.feed_deliver d capacity hf
  rw [show r.consume f.recordType f.flags f.payload = r.feed f from rfl]
  generalize r.feed f = res at hstep ⊢
  obtain ⟨r', exit⟩ := res
  obtain ⟨hdata, hne, -⟩ | ⟨hout, hks, -⟩ | ⟨hout, -⟩ | ⟨e, hout, -⟩ := hstep
  · obtain ⟨rfl, rfl⟩ := Prod.mk.inj hdata
    refine .inr (.inr (hlt ?_))
    intro hks
    rw [hks] at hf
    exact hne (congrArg (fun x => x.1.payload) hf).symm
  · obtain rfl : exit = _ := hout
    exact .inr (.inr ((readLoop_backlog abi hcap _ r' k₁).trans_lt (hlt hks)))
  · obtain rfl : exit = _ := hout
    exact .inl rfl
  · obtain rfl : exit = _ := hout
    exact .inr (.inl ⟨e, rfl⟩)

/-! ## Schedules -/

/-- One poll of a schedule: the caller's buffer, and what the socket does during the poll. -/
structure Plan where
  capacity : ℕ
  capacity_pos : 0 < capacity
  receives : List Receive
  ready : List Bool
  deriving DecidableEq, Repr

/-- Poll until the stream has ended: the bytes delivered, and how it ended. -/
def readAll (abi : Abi) : RecordReader → List Record → List Plan → Bytes × Option Verdict
  | _, _, [] => ([], none)
  | r, ks, p :: ps =>
      match RecordReader.pollRead abi (Socket.env abi) p.capacity r ⟨ks, p.receives, p.ready⟩ with
      | (r, k, .returned .pending) => readAll abi r k.records ps
      | (_, _, .returned (.ready (.ok []))) => ([], some .eof)
      | (r, k, .returned (.ready (.ok (b :: bs)))) =>
          let later := readAll abi r k.records ps
          (b :: bs ++ later.1, later.2)
      | (_, _, .returned (.ready (.error e))) => ([], some (.failed e.kind))
      | (_, _, .panicked) => ([], some .crashed)
      | (_, _, .running) => ([], some .crashed)

/-- What a reader that has delivered some bytes still has to deliver. -/
theorem Serving.later {r : RecordReader} {rest ks : List Record} {bytes : Bytes}
    (h : Serving r rest ks bytes) : ∃ ks', Serving r rest ks' [] ∧
      plaintext ks = bytes ++ plaintext ks' ∧ verdict ks = verdict ks' := by
  obtain ⟨held, hheld, hmid, hplain, hverdict⟩ := h
  exact ⟨restore held rest, ⟨held, hheld, hmid, rfl, rfl⟩, hplain, hverdict⟩

/-- **Run lemma.** A schedule delivers an initial part of the plaintext, and all of it when it ends,
with the right verdict. -/
theorem readAll_serves (abi : Abi) {r : RecordReader} {rest ks : List Record}
    (h : Serving r rest ks []) (s : List Plan) :
    ∃ tail, plaintext ks = (readAll abi r rest s).1 ++ tail ∧
      ∀ v, (readAll abi r rest s).2 = some v → tail = [] ∧ v = verdict ks := by
  induction s generalizing r rest ks with
  | nil => exact ⟨plaintext ks, rfl, nofun⟩
  | cons p ps ih =>
      have hpoll := pollRead_serves abi p.capacity_pos
        (show Serving r (⟨rest, p.receives, p.ready⟩ : Socket).records ks [] from h)
      unfold readAll
      generalize RecordReader.pollRead abi (Socket.env abi) p.capacity r
        ⟨rest, p.receives, p.ready⟩ = res at hpoll ⊢
      obtain ⟨r', k', ((e | (_ | ⟨b, bs⟩)) | _) | _ | _⟩ := res
      · refine ⟨[], by simpa using hpoll.1, fun v hv => ⟨rfl, ?_⟩⟩
        rw [hpoll.2]
        exact (Option.some.inj hv).symm
      · refine ⟨[], by simpa using hpoll.1, fun v hv => ⟨rfl, ?_⟩⟩
        rw [hpoll.2]
        exact (Option.some.inj hv).symm
      · obtain ⟨ks', h', hplain, hverdict⟩ := Serving.later hpoll
        obtain ⟨tail, htail, hend⟩ := ih h'
        rw [hplain, htail, hverdict]
        exact ⟨tail, (List.append_assoc _ _ _).symm, hend⟩
      · exact ih hpoll
      · exact hpoll.elim
      · exact hpoll.elim

/-- The kernel has something for the poll at once. -/
def Plan.Delivers (p : Plan) : Prop :=
  ∃ d, p.receives.head? = some (.fragment d)

/-- A schedule of polls that each get something has ended once the queue is used up. -/
theorem readAll_ends (abi : Abi) {r : RecordReader} {rest ks : List Record}
    (h : Serving r rest ks []) {s : List Plan} (hs : ∀ p ∈ s, p.Delivers)
    (hlen : backlog rest < s.length) : (readAll abi r rest s).2 ≠ none := by
  induction s generalizing r rest ks with
  | nil => simp at hlen
  | cons p ps ih =>
      obtain ⟨d, hd⟩ := hs p List.mem_cons_self
      have hk : Serving r (⟨rest, p.receives, p.ready⟩ : Socket).records ks [] := h
      have hpoll := pollRead_serves abi p.capacity_pos hk
      have hback := pollRead_backlog abi p.capacity_pos hk hd
      have hps : ∀ q ∈ ps, q.Delivers := fun q hq => hs q (List.mem_cons_of_mem p hq)
      rw [List.length_cons] at hlen
      unfold readAll
      generalize RecordReader.pollRead abi (Socket.env abi) p.capacity r
        ⟨rest, p.receives, p.ready⟩ = res at hpoll hback ⊢
      obtain ⟨r', k', ((e | (_ | ⟨b, bs⟩)) | _) | _ | _⟩ := res
      · simp
      · simp
      · obtain ⟨ks', h', -⟩ := Serving.later hpoll
        have hlt : backlog k'.records < backlog rest := by simpa using hback
        exact ih h' hps (by omega)
      · have hlt : backlog k'.records < backlog rest := by simpa using hback
        exact ih hpoll hps (by omega)
      · exact hpoll.elim
      · exact hpoll.elim

/-- What every schedule of polls makes of the queue `ks`. -/
structure ScheduleFree (abi : Abi) (ks : List Record) : Prop where
  /-- A schedule that has not ended has delivered an initial part of the plaintext. -/
  initial : ∀ s, (readAll abi RecordReader.default ks s).1 <+: plaintext ks
  /-- A schedule that has ended has delivered all of it, and ended as the queue does. -/
  ended : ∀ s, (readAll abi RecordReader.default ks s).2 ≠ none →
    readAll abi RecordReader.default ks s = (plaintext ks, some (verdict ks))
  /-- Two schedules that have ended are alike. -/
  agree : ∀ s s', (readAll abi RecordReader.default ks s).2 ≠ none →
    (readAll abi RecordReader.default ks s').2 ≠ none →
    readAll abi RecordReader.default ks s = readAll abi RecordReader.default ks s'
  /-- A schedule ends after as many polls that get something as the queue has bytes and records, and
  one more. -/
  ends : ∀ s, (∀ p ∈ s, p.Delivers) → backlog ks < s.length →
    (readAll abi RecordReader.default ks s).2 ≠ none

/-- **What the reader delivers, and how it ends, depends on the records only.** -/
theorem schedule_independent (abi : Abi) (ks : List Record) : ScheduleFree abi ks := by
  have hended : ∀ s, (readAll abi RecordReader.default ks s).2 ≠ none →
      readAll abi RecordReader.default ks s = (plaintext ks, some (verdict ks)) := by
    intro s hs
    obtain ⟨tail, htail, hend⟩ := readAll_serves abi (serving_default ks) s
    obtain ⟨v, hv⟩ := Option.ne_none_iff_exists'.mp hs
    obtain ⟨rfl, rfl⟩ := hend v hv
    rw [List.append_nil] at htail
    exact Prod.ext htail.symm hv
  refine ⟨fun s => ?_, hended, fun s s' hs hs' => ?_, fun s hs hlen => ?_⟩
  · obtain ⟨tail, htail, -⟩ := readAll_serves abi (serving_default ks) s
    exact ⟨tail, htail.symm⟩
  · rw [hended s hs, hended s' hs']
  · exact readAll_ends abi (serving_default ks) hs hlen

end TokioAwsLc.Ktls
