import TokioAwsLc.Ktls.Grammar

/-!
# The reader's verdict is sticky

A connection can end for its reader in three layers: the ancillary data of a receive, the record that
was received, and the socket itself. Each has to go through the one latch of the reader, and nothing
else may.

* `Ending`: how a poll of a live reader ends, with what it returns (`Ending.result`) and what it latches
  (`Ending.terminal`). Six of the endings are terminal.
* `Polls abi env capacity budget r k e r' k'`: the rounds of a poll, up to its ending. A round that an
  `EINTR`, a wait, an empty application-data record or the first byte of an alert uses up leads on to
  the next one. `readLoop_of_polls`, `exists_polls` and `Polls.terminal_eq` connect the rounds with the
  loop: they are what it does, there always are some, and the ending says how they leave the reader.
* `Call`, `readerAfter abi calls`: a poll with its buffer and its socket, and the reader after some.
* `sticky_verdict` is the result, for every history of polls.
-/

namespace TokioAwsLc.Ktls

variable {κ : Type} {abi : Abi} {env : RecvEnv κ} {capacity : ℕ}

/-! ## Endings -/

/-- How a poll of a live reader ends. -/
inductive Ending
  | data (bytes : Bytes)
  /-- The wait for readability is pending. -/
  | notReady
  | outOfBudget
  /-- A close_notify. -/
  | closed
  /-- `consume` rejected the record. -/
  | rejected (e : IoError)
  /-- The ancillary data were rejected. -/
  | ancillary (e : IoError)
  /-- More bytes were reported than the buffer has. -/
  | oversized (e : IoError)
  /-- An error code other than `EINTR` and `EAGAIN`. -/
  | socket (errno : ℤ)
  /-- The wait for readability failed. -/
  | readiness (e : IoError)
  deriving DecidableEq, Repr

/-- What the poll returns. -/
def Ending.result : Ending → Poll (IoResult Bytes)
  | .data bytes => .ready (.ok bytes)
  | .notReady => .pending
  | .outOfBudget => .pending
  | .closed => .ready (.ok [])
  | .rejected e => .ready (.error e)
  | .ancillary e => .ready (.error e)
  | .oversized e => .ready (.error e)
  | .socket errno => .ready (.error (.os errno))
  | .readiness e => .ready (.error e)

/-- What the reader latches. -/
def Ending.terminal : Ending → Option Terminal
  | .data _ => none
  | .notReady => none
  | .outOfBudget => none
  | .closed => some .closed
  | .rejected e => some (.failed (copyError e))
  | .ancillary e => some (.failed (copyError e))
  | .oversized e => some (.failed (copyError e))
  | .socket errno => some (.failed (copyError (.os errno)))
  | .readiness e => some (.failed (copyError e))

/-! ## Rounds -/

/-- The receive found the socket not ready: by the cached readiness, or with an `EAGAIN`. -/
def Blocked (got : Option RecvMsg) : Prop :=
  got = none ∨ got = some (.failed eagain)

/-- The rounds of a poll with this much of its budget left, from a reader and a socket to an ending. -/
inductive Polls (abi : Abi) (env : RecvEnv κ) (capacity : ℕ) :
    ℕ → RecordReader → κ → Ending → RecordReader → κ → Prop
  | outOfBudget {r : RecordReader} {k : κ} :
      Polls abi env capacity 0 r k .outOfBudget r (env.wakeByRef k)
  | interrupted {n : ℕ} {r r' : RecordReader} {k k₁ k' : κ} {e : Ending}
      (hrecv : env.tryRecvmsg k capacity = (k₁, some (.failed eintr)))
      (hrest : Polls abi env capacity n r k₁ e r' k') : Polls abi env capacity (n + 1) r k e r' k'
  | retried {n : ℕ} {r r' : RecordReader} {k k₁ k₂ k' : κ} {got : Option RecvMsg} {e : Ending}
      (hrecv : env.tryRecvmsg k capacity = (k₁, got)) (hblocked : Blocked got)
      (hwait : env.pollReadReady k₁ = (k₂, .ready (.ok ())))
      (hrest : Polls abi env capacity n r k₂ e r' k') : Polls abi env capacity (n + 1) r k e r' k'
  | skipped {n : ℕ} {r r' : RecordReader} {k k₁ k' : κ} {m : RecvMsg} {flags : BitVec 32}
      {e : Ending} (hrecv : env.tryRecvmsg k capacity = (k₁, some m))
      (hrecord : recvRecord abi capacity m = .ok ⟨[], some applicationData, flags⟩)
      (halert : r.alertLen = 0)
      (hrest : Polls abi env capacity n r k₁ e r' k') : Polls abi env capacity (n + 1) r k e r' k'
  | firstAlertByte {n : ℕ} {r r' : RecordReader} {k k₁ k' : κ} {m : RecvMsg} {flags : BitVec 32}
      {l : UInt8} {e : Ending} (hrecv : env.tryRecvmsg k capacity = (k₁, some m))
      (hrecord : recvRecord abi capacity m = .ok ⟨[l], some alertType, flags⟩)
      (heor : ¬ EndOfRecord flags) (halert : r.alertLen = 0)
      (hrest : Polls abi env capacity n
        { r with alert := RecordReader.copyAlert r.alert 0 [l], alertLen := 1 } k₁ e r' k') :
      Polls abi env capacity (n + 1) r k e r' k'
  | data {n : ℕ} {r : RecordReader} {k k₁ : κ} {m : RecvMsg} {record : Received}
      (hrecv : env.tryRecvmsg k capacity = (k₁, some m))
      (hrecord : recvRecord abi capacity m = .ok record)
      (htype : record.recordType = none ∨ record.recordType = some applicationData)
      (hne : record.payload ≠ []) (halert : r.alertLen = 0) :
      Polls abi env capacity (n + 1) r k (.data record.payload) r k₁
  | notReady {n : ℕ} {r : RecordReader} {k k₁ k₂ : κ} {got : Option RecvMsg}
      (hrecv : env.tryRecvmsg k capacity = (k₁, got)) (hblocked : Blocked got)
      (hwait : env.pollReadReady k₁ = (k₂, .pending)) :
      Polls abi env capacity (n + 1) r k .notReady r k₂
  | closed {n : ℕ} {r r' : RecordReader} {k k₁ : κ} {m : RecvMsg} {record : Received}
      (hrecv : env.tryRecvmsg k capacity = (k₁, some m))
      (hrecord : recvRecord abi capacity m = .ok record)
      (hconsume : r.consume record.recordType record.flags record.payload =
        (r', .returned (.ok .eof))) :
      Polls abi env capacity (n + 1) r k .closed r' k₁
  | rejected {n : ℕ} {r r' : RecordReader} {k k₁ : κ} {m : RecvMsg} {record : Received} {e : IoError}
      (hrecv : env.tryRecvmsg k capacity = (k₁, some m))
      (hrecord : recvRecord abi capacity m = .ok record)
      (hconsume : r.consume record.recordType record.flags record.payload =
        (r', .returned (.error e))) :
      Polls abi env capacity (n + 1) r k (.rejected e) r' k₁
  | ancillary {n : ℕ} {r : RecordReader} {k k₁ : κ} {payload : Bytes} {controllen : ℕ}
      {control : RecvControl} {flags : BitVec 32} {e : IoError}
      (hrecv : env.tryRecvmsg k capacity =
        (k₁, some (.received payload controllen control flags)))
      (htype : control.recordType abi controllen flags = .error e) :
      Polls abi env capacity (n + 1) r k
        (.ancillary (recvError abi e flags controllen control payload.length capacity))
        (r.fail (recvError abi e flags controllen control payload.length capacity)).1 k₁
  | oversized {n : ℕ} {r : RecordReader} {k k₁ : κ} {payload : Bytes} {controllen : ℕ}
      {control : RecvControl} {flags : BitVec 32} {t : Option UInt8}
      (hrecv : env.tryRecvmsg k capacity =
        (k₁, some (.received payload controllen control flags)))
      (htype : control.recordType abi controllen flags = .ok t) (hlen : capacity < payload.length) :
      Polls abi env capacity (n + 1) r k
        (.oversized (recvError abi (.invalidData "kTLS recvmsg exceeded its destination buffer")
          flags controllen control payload.length capacity))
        (r.fail (recvError abi (.invalidData "kTLS recvmsg exceeded its destination buffer")
          flags controllen control payload.length capacity)).1 k₁
  | socket {n : ℕ} {r : RecordReader} {k k₁ : κ} {errno : ℤ}
      (hrecv : env.tryRecvmsg k capacity = (k₁, some (.failed errno)))
      (hintr : errno ≠ eintr) (hagain : errno ≠ eagain) :
      Polls abi env capacity (n + 1) r k (.socket errno) (r.fail (.os errno)).1 k₁
  | readiness {n : ℕ} {r : RecordReader} {k k₁ k₂ : κ} {got : Option RecvMsg} {e : IoError}
      (hrecv : env.tryRecvmsg k capacity = (k₁, got)) (hblocked : Blocked got)
      (hwait : env.pollReadReady k₁ = (k₂, .ready (.error e))) :
      Polls abi env capacity (n + 1) r k (.readiness e) (r.fail e).1 k₂

/-! ## What a round meets -/

/-- Of all error codes only `EINTR` reads as an interruption. -/
theorem decodeErrorKind_eq_interrupted {errno : ℤ} :
    decodeErrorKind errno = .interrupted ↔ errno = eintr := by
  unfold decodeErrorKind
  simp only [ite_eq_iff, reduceCtorEq, and_false, and_true, or_false]

/-- Of all error codes only `EAGAIN` reads as not ready. -/
theorem decodeErrorKind_eq_wouldBlock {errno : ℤ} :
    decodeErrorKind errno = .wouldBlock ↔ errno = eagain := by
  unfold decodeErrorKind
  simp only [ite_eq_iff, reduceCtorEq, and_false, and_true, or_false, false_or]
  unfold eintr eagain
  omega

/-- A socket that is not ready is waited for. -/
theorem Blocked.tryRecvRecord (abi : Abi) (capacity : ℕ) {got : Option RecvMsg} (h : Blocked got) :
    ∃ e, RecordReader.tryRecvRecord abi capacity got = .error e ∧ e.kind = .wouldBlock := by
  rcases h with rfl | rfl
  · exact ⟨.simple .wouldBlock, rfl, rfl⟩
  · exact ⟨.os eagain, rfl, decodeErrorKind_eq_wouldBlock.mpr rfl⟩

/-- A record that is handed on was not truncated. -/
theorem recvRecord_not_truncated {m : RecvMsg} {record : Received}
    (h : recvRecord abi capacity m = .ok record) : ¬ Truncated record.flags := by
  cases m with
  | failed errno => cases h
  | received payload controllen control flags =>
      simp only [recvRecord] at h
      rcases htype : control.recordType abi controllen flags with e | t
      · rw [htype] at h
        cases h
      · rw [htype] at h
        simp only at h
        split_ifs at h
        cases h
        exact ((control.recordType_eq_ok_iff t).mp htype).1

section consume

variable {r : RecordReader} {flags : BitVec 32} (hlive : r.terminal = none) (halert : r.alertLen = 0)
  (htr : ¬ Truncated flags)

include hlive halert htr

/-- An empty application-data record is skipped. -/
theorem consume_skipped :
    r.consume (some applicationData) flags [] = (r, .returned (.ok .more)) := by
  unfold RecordReader.consume
  rw [finished_eq_none_iff.mpr hlive]
  simp only [if_neg htr, if_true, halert, and_self]

/-- The first byte of an alert is kept. -/
theorem consume_firstAlertByte (heor : ¬ EndOfRecord flags) (l : UInt8) :
    r.consume (some alertType) flags [l] =
      ({ r with alert := RecordReader.copyAlert r.alert 0 [l], alertLen := 1 },
        .returned (.ok .more)) := by
  have happ : alertType ≠ applicationData := by decide
  unfold RecordReader.consume
  rw [finished_eq_none_iff.mpr hlive]
  simp only [if_neg htr, halert, ne_eq, not_true_eq_false, false_and, if_false, Option.getD_some,
    if_neg happ, if_true, List.cons_ne_nil]
  unfold RecordReader.consumeAlert
  simp [halert, heor]

/-- Application data are handed out. -/
theorem consume_data {t : Option UInt8} {payload : Bytes} (ht : t = none ∨ t = some applicationData)
    (hne : payload ≠ []) :
    r.consume t flags payload = (r, .returned (.ok (.data payload.length))) := by
  unfold RecordReader.consume
  rw [finished_eq_none_iff.mpr hlive]
  simp only [if_neg htr, if_neg hne, halert, ne_eq, not_true_eq_false, false_and, if_false,
    if_pos (getD_eq_applicationData.mpr ht)]

end consume

/-! ## The rounds and the loop -/

/-- The loop where the receive failed for a reason that is neither an interruption nor a wait. -/
theorem readLoop_failed {n : ℕ} {r : RecordReader} {k k₁ : κ} {got : Option RecvMsg} {e : IoError}
    (hrecv : env.tryRecvmsg k capacity = (k₁, got))
    (htry : RecordReader.tryRecvRecord abi capacity got = .error e)
    (hintr : e.kind ≠ .interrupted) (hblock : e.kind ≠ .wouldBlock) :
    RecordReader.readLoop abi env capacity (n + 1) r k =
      ((r.fail e).1, k₁, .returned (.ready (.error e))) := by
  unfold RecordReader.readLoop
  simp only [hrecv, htry, if_neg hintr, if_neg hblock]
  rfl

/-- A kind that is invalid data is neither of the two. -/
theorem readLoop_invalid {n : ℕ} {r : RecordReader} {k k₁ : κ} {got : Option RecvMsg} {e : IoError}
    (hrecv : env.tryRecvmsg k capacity = (k₁, got))
    (htry : RecordReader.tryRecvRecord abi capacity got = .error e) (hkind : e.kind = .invalidData) :
    RecordReader.readLoop abi env capacity (n + 1) r k =
      ((r.fail e).1, k₁, .returned (.ready (.error e))) :=
  readLoop_failed hrecv htry (by simp [hkind]) (by simp [hkind])

/-- The diagnostics that are added to an error keep its kind. -/
@[simp] theorem kind_recvError (e : IoError) (flags : BitVec 32) (controllen : ℕ)
    (control : RecvControl) (received : ℕ) :
    (recvError abi e flags controllen control received capacity).kind = e.kind := rfl

/-- **The rounds are what the loop does**, by induction on the rounds. -/
theorem readLoop_of_polls {n : ℕ} {r r' : RecordReader} {k k' : κ} {e : Ending}
    (h : Polls abi env capacity n r k e r' k') (hlive : r.terminal = none) :
    RecordReader.readLoop abi env capacity n r k = (r', k', .returned e.result) := by
  induction h with
  | outOfBudget => rfl
  | interrupted hrecv _ ih =>
      unfold RecordReader.readLoop
      simp only [hrecv, RecordReader.tryRecvRecord, recvRecord, IoError.kind,
        decodeErrorKind_eq_interrupted, if_true]
      exact ih hlive
  | retried hrecv hblocked hwait _ ih =>
      obtain ⟨err, htry, hkind⟩ := hblocked.tryRecvRecord abi capacity
      unfold RecordReader.readLoop
      simp only [hrecv, htry, hkind, reduceCtorEq, if_false, if_true, hwait]
      exact ih hlive
  | skipped hrecv hrecord halert _ ih =>
      have hconsume := consume_skipped hlive halert (recvRecord_not_truncated hrecord)
      unfold RecordReader.readLoop
      simp only [hrecv, RecordReader.tryRecvRecord, hrecord, hconsume]
      exact ih hlive
  | @firstAlertByte _ _ _ _ _ _ _ _ l _ hrecv hrecord heor halert _ ih =>
      have hconsume := consume_firstAlertByte hlive halert (recvRecord_not_truncated hrecord) heor l
      unfold RecordReader.readLoop
      simp only [hrecv, RecordReader.tryRecvRecord, hrecord, hconsume]
      exact ih hlive
  | data hrecv hrecord htype hne halert =>
      have hconsume := consume_data hlive halert (recvRecord_not_truncated hrecord) htype hne
      unfold RecordReader.readLoop
      simp only [hrecv, RecordReader.tryRecvRecord, hrecord, hconsume, List.take_length]
      rfl
  | notReady hrecv hblocked hwait =>
      obtain ⟨err, htry, hkind⟩ := hblocked.tryRecvRecord abi capacity
      unfold RecordReader.readLoop
      simp only [hrecv, htry, hkind, reduceCtorEq, if_false, if_true, hwait]
      rfl
  | closed hrecv hrecord hconsume =>
      unfold RecordReader.readLoop
      simp only [hrecv, RecordReader.tryRecvRecord, hrecord, hconsume]
      rfl
  | rejected hrecv hrecord hconsume =>
      unfold RecordReader.readLoop
      simp only [hrecv, RecordReader.tryRecvRecord, hrecord, hconsume]
      rfl
  | ancillary hrecv htype =>
      refine readLoop_invalid hrecv ?_
        ((kind_recvError _ _ _ _ _).trans (RecvControl.kind_of_recordType_error htype))
      simp only [RecordReader.tryRecvRecord, recvRecord, htype]
  | oversized hrecv htype hlen =>
      refine readLoop_invalid hrecv ?_ rfl
      simp only [RecordReader.tryRecvRecord, recvRecord, htype, if_pos hlen]
  | socket hrecv hintr hagain =>
      exact readLoop_failed hrecv rfl (mt decodeErrorKind_eq_interrupted.mp hintr)
        (mt decodeErrorKind_eq_wouldBlock.mp hagain)
  | readiness hrecv hblocked hwait =>
      obtain ⟨err, htry, hkind⟩ := hblocked.tryRecvRecord abi capacity
      unfold RecordReader.readLoop
      simp only [hrecv, htry, hkind, reduceCtorEq, if_false, if_true, hwait]
      rfl

/-- The reader holds what it held, plus the first byte of an alert. -/
theorem holds_firstAlertByte {r : RecordReader} (h : Holds r none) (l : UInt8) :
    Holds { r with alert := RecordReader.copyAlert r.alert 0 [l], alertLen := 1 } (some l) := by
  refine ⟨h.1, rfl, ?_⟩
  simp [copyAlert_getElem]

/-- A live reader that has received a record goes on to the next round or ends the poll. -/
theorem exists_polls_record {n : ℕ} {r : RecordReader} {k k₁ : κ} {m : RecvMsg} (record : Received)
    {held : Option UInt8} (hheld : Holds r held)
    (hrecv : env.tryRecvmsg k capacity = (k₁, some m))
    (hrecord : recvRecord abi capacity m = .ok record)
    (ih : ∀ {r₁ : RecordReader} {held₁ : Option UInt8}, Holds r₁ held₁ →
      ∃ e r' k', Polls abi env capacity n r₁ k₁ e r' k') :
    ∃ e r' k', Polls abi env capacity (n + 1) r k e r' k' := by
  obtain ⟨payload, t, flags⟩ := record
  have hmeets := consume_expect hheld ⟨t, flags, payload⟩
  have hzero := hheld.alertLen_eq_zero_iff
  rcases hx : expect held ⟨t, flags, payload⟩ with b | kept | _ | kind
  · obtain ⟨hnone, -, hne, -, htype⟩ := expect_data_iff.mp hx
    exact ⟨_, _, _, .data hrecv hrecord htype hne (hzero.mpr hnone)⟩
  · obtain ⟨rfl, -, ⟨-, hp, ht⟩ | ⟨l, -, hal⟩⟩ := expect_more_iff.mp hx
    · obtain rfl : payload = [] := hp
      obtain rfl : t = some applicationData := ht
      obtain ⟨e, r', k', hrest⟩ := ih hheld
      exact ⟨e, r', k', .skipped hrecv hrecord (hzero.mpr rfl) hrest⟩
    · obtain rfl : payload = [l] := hal.payload
      obtain rfl : t = some alertType := hal.type
      have heor : ¬ EndOfRecord flags := by
        rw [hal.eor]
        simp
      obtain ⟨e, r', k', hrest⟩ := ih (holds_firstAlertByte hheld l)
      exact ⟨e, r', k', .firstAlertByte hrecv hrecord heor (hzero.mpr rfl) hrest⟩
  · rw [hx] at hmeets
    exact ⟨_, _, _, .closed hrecv hrecord (Prod.ext rfl hmeets.1)⟩
  · rw [hx] at hmeets
    obtain ⟨e, he, -⟩ := hmeets
    exact ⟨_, _, _, .rejected hrecv hrecord (Prod.ext rfl he)⟩

/-- A round that waits goes on or ends the poll. -/
theorem exists_polls_blocked {n : ℕ} {r : RecordReader} {k k₁ : κ} {got : Option RecvMsg}
    (hrecv : env.tryRecvmsg k capacity = (k₁, got)) (hblocked : Blocked got)
    (ih : ∀ k₂, ∃ e r' k', Polls abi env capacity n r k₂ e r' k') :
    ∃ e r' k', Polls abi env capacity (n + 1) r k e r' k' := by
  rcases hwait : env.pollReadReady k₁ with ⟨k₂, ((e | ⟨⟨⟩⟩) | _)⟩
  · exact ⟨_, _, _, .readiness hrecv hblocked hwait⟩
  · obtain ⟨e, r', k', hrest⟩ := ih k₂
    exact ⟨e, r', k', .retried hrecv hblocked hwait hrest⟩
  · exact ⟨_, _, _, .notReady hrecv hblocked hwait⟩

/-- **There always are rounds**, by induction on the budget: no answer of the socket is left out. -/
theorem exists_polls (abi : Abi) (env : RecvEnv κ) (capacity n : ℕ) {r : RecordReader}
    {held : Option UInt8} (hheld : Holds r held) (k : κ) :
    ∃ e r' k', Polls abi env capacity n r k e r' k' := by
  induction n generalizing r held k with
  | zero => exact ⟨_, _, _, .outOfBudget⟩
  | succ n ih =>
      rcases hrecv : env.tryRecvmsg k capacity with ⟨k₁, _ | m⟩
      · exact exists_polls_blocked hrecv (.inl rfl) (ih hheld)
      cases m with
      | failed errno =>
          by_cases hintr : errno = eintr
          · subst hintr
            obtain ⟨e, r', k', hrest⟩ := ih hheld k₁
            exact ⟨e, r', k', .interrupted hrecv hrest⟩
          by_cases hagain : errno = eagain
          · subst hagain
            exact exists_polls_blocked hrecv (.inr rfl) (ih hheld)
          · exact ⟨_, _, _, .socket hrecv hintr hagain⟩
      | received payload controllen control flags =>
          rcases htype : control.recordType abi controllen flags with e | t
          · exact ⟨_, _, _, .ancillary hrecv htype⟩
          by_cases hlen : capacity < payload.length
          · exact ⟨_, _, _, .oversized hrecv htype hlen⟩
          · refine exists_polls_record ⟨payload, t, flags⟩ hheld hrecv ?_ fun h => ih h k₁
            simp only [recvRecord, htype, if_neg hlen]

/-- A record leaves a live reader as the result of `consume` says. -/
theorem consume_latched {r r' : RecordReader} {held : Option UInt8} (hheld : Holds r held)
    {record : Received} {res : IoResult ReadOutcome}
    (hconsume : r.consume record.recordType record.flags record.payload = (r', .returned res)) :
    r'.terminal = latch res := by
  have hfeed : r.feed ⟨record.recordType, record.flags, record.payload⟩ = (r', .returned res) :=
    hconsume
  obtain ⟨res', hres, hterm⟩ :=
    (consume_expect hheld ⟨record.recordType, record.flags, record.payload⟩).latched hheld.1
  rw [hfeed] at hres hterm
  obtain rfl : res = res' := Exit.returned.inj hres
  exact hterm

/-- **The ending says how the rounds leave the reader**, by induction on the rounds: a round that leads
on leaves it live. -/
theorem Polls.terminal_eq {n : ℕ} {r r' : RecordReader} {k k' : κ} {e : Ending}
    (h : Polls abi env capacity n r k e r' k') {held : Option UInt8} (hheld : Holds r held) :
    r'.terminal = e.terminal ∧ (e.terminal = none → ∃ held', Holds r' held') := by
  induction h generalizing held with
  | outOfBudget => exact ⟨hheld.1, fun _ => ⟨held, hheld⟩⟩
  | interrupted _ _ ih => exact ih hheld
  | retried _ _ _ _ ih => exact ih hheld
  | skipped _ _ _ _ ih => exact ih hheld
  | @firstAlertByte _ _ _ _ _ _ _ _ l _ _ _ _ halert _ ih =>
      obtain rfl : held = none := hheld.alertLen_eq_zero_iff.mp halert
      exact ih (holds_firstAlertByte hheld l)
  | data => exact ⟨hheld.1, fun _ => ⟨held, hheld⟩⟩
  | notReady => exact ⟨hheld.1, fun _ => ⟨held, hheld⟩⟩
  | closed _ _ hconsume => exact ⟨consume_latched hheld hconsume, by simp [Ending.terminal]⟩
  | rejected _ _ hconsume => exact ⟨consume_latched hheld hconsume, by simp [Ending.terminal]⟩
  | ancillary => exact ⟨rfl, by simp [Ending.terminal]⟩
  | oversized => exact ⟨rfl, by simp [Ending.terminal]⟩
  | socket => exact ⟨rfl, by simp [Ending.terminal]⟩
  | readiness => exact ⟨rfl, by simp [Ending.terminal]⟩

/-! ## Histories of polls -/

/-- One `poll_read`: the socket it meets, in any state, and the room in its buffer. -/
structure Call (κ : Type) where
  env : RecvEnv κ
  socket : κ
  capacity : ℕ

/-- Source: `src/ktls/io.rs` `RecordReader::poll_read` -/
def RecordReader.poll (abi : Abi) (r : RecordReader) (c : Call κ) :
    RecordReader × κ × Exit (Poll (IoResult Bytes)) :=
  r.pollRead abi c.env c.capacity c.socket

/-- The reader after these polls on a default one. -/
def readerAfter (abi : Abi) (calls : List (Call κ)) : RecordReader :=
  calls.foldl (fun r c => (r.poll abi c).1) RecordReader.default

/-- One more call. -/
@[simp] theorem readerAfter_concat (calls : List (Call κ)) (c : Call κ) :
    readerAfter abi (calls ++ [c]) = ((readerAfter abi calls).poll abi c).1 := by
  simp [readerAfter]

/-- A live reader holds at most one alert byte. -/
def Sound (r : RecordReader) : Prop :=
  r.terminal = none → ∃ held, Holds r held

/-- A poll without room in its buffer does nothing to a live reader. -/
theorem poll_no_room {r : RecordReader} (hlive : r.terminal = none) {c : Call κ}
    (hcap : c.capacity = 0) : r.poll abi c = (r, c.socket, .returned (.ready (.ok []))) := by
  unfold RecordReader.poll RecordReader.pollRead
  rw [finished_eq_none_iff.mpr hlive]
  simp only [if_pos hcap]

/-- A poll of a live reader is its rounds. -/
theorem poll_of_polls {r r' : RecordReader} {c : Call κ} {k' : κ} {e : Ending}
    (hlive : r.terminal = none) (hcap : 0 < c.capacity)
    (h : Polls abi c.env c.capacity ioBudget r c.socket e r' k') :
    r.poll abi c = (r', k', .returned e.result) := by
  unfold RecordReader.poll RecordReader.pollRead
  rw [finished_eq_none_iff.mpr hlive]
  simp only [if_neg hcap.ne']
  exact readLoop_of_polls h hlive

/-- What a terminal reader returns. -/
def Terminal.verdict : Terminal → Poll (IoResult Bytes)
  | .closed => .ready (.ok [])
  | .failed e => .ready (.error (copyError e))

/-- A terminal reader repeats how it ended. It does nothing else, whatever the socket and the buffer
are. -/
theorem poll_of_terminal {r : RecordReader} {t : Terminal} (h : r.terminal = some t) (c : Call κ) :
    r.poll abi c = (r, c.socket, .returned t.verdict) := by
  unfold RecordReader.poll RecordReader.pollRead RecordReader.finished
  rw [h]
  cases t <;> rfl

/-- **Step lemma.** A poll keeps the reader sound. -/
theorem sound_poll {r : RecordReader} (h : Sound r) (c : Call κ) : Sound (r.poll abi c).1 := by
  rcases hterm : r.terminal with _ | t
  · obtain ⟨held, hheld⟩ := h hterm
    by_cases hcap : c.capacity = 0
    · rw [poll_no_room hterm hcap]
      exact h
    · obtain ⟨e, r', k', hpolls⟩ := exists_polls abi c.env c.capacity ioBudget hheld c.socket
      obtain ⟨heq, hlive⟩ := hpolls.terminal_eq hheld
      rw [poll_of_polls hterm (Nat.pos_of_ne_zero hcap) hpolls]
      intro hnone
      exact hlive (heq.symm.trans hnone)
  · rw [poll_of_terminal hterm]
    exact h

/-- **Run lemma.** -/
theorem sound_readerAfter (abi : Abi) (calls : List (Call κ)) : Sound (readerAfter abi calls) := by
  induction calls using List.reverseRecOn with
  | nil => exact fun _ => ⟨none, holds_default⟩
  | append_singleton calls c ih =>
      rw [readerAfter_concat]
      exact sound_poll ih c

/-- Once the reader is terminal no poll changes it. -/
theorem readerAfter_append_of_terminal {calls : List (Call κ)} {t : Terminal}
    (h : (readerAfter abi calls).terminal = some t) (later : List (Call κ)) :
    readerAfter abi (calls ++ later) = readerAfter abi calls := by
  induction later using List.reverseRecOn with
  | nil => rw [List.append_nil]
  | append_singleton later c ih =>
      rw [← List.append_assoc, readerAfter_concat, ih, poll_of_terminal h]

/-! ## The verdict -/

/-- The poll returned a terminal result: a clean end, which is a read of no bytes into a buffer with
room, or an error. -/
def EndsWith (capacity : ℕ) (out : Exit (Poll (IoResult Bytes))) : Terminal → Prop
  | .closed => 0 < capacity ∧ out = .returned (.ready (.ok []))
  | .failed e => out = .returned (.ready (.error e))

/-- The poll returned this verdict: no bytes, or an error with the same code, or the same kind and
message. -/
def Repeats (out : Exit (Poll (IoResult Bytes))) : Terminal → Prop
  | .closed => out = .returned (.ready (.ok []))
  | .failed e => ∃ e', out = .returned (.ready (.error e')) ∧ e'.SameReport e

/-- Data are never no bytes. -/
theorem Polls.data_ne_nil {n : ℕ} {r r' : RecordReader} {k k' : κ} {e : Ending}
    (h : Polls abi env capacity n r k e r' k') {bytes : Bytes} (he : e = .data bytes) :
    bytes ≠ [] := by
  induction h with
  | interrupted _ _ ih => exact ih he
  | retried _ _ _ _ ih => exact ih he
  | skipped _ _ _ _ ih => exact ih he
  | firstAlertByte _ _ _ _ _ ih => exact ih he
  | data _ _ _ hne _ =>
      obtain rfl := Ending.data.inj he
      exact hne
  | outOfBudget | notReady | closed | rejected | ancillary | oversized | socket | readiness => cases he

/-- An error that is latched is repeated. -/
theorem EndsWith.repeats_error {e : IoError} {v : Terminal}
    (h : EndsWith capacity (.returned (.ready (.error e))) v) :
    Repeats (.returned (Terminal.failed (copyError e)).verdict) v := by
  cases v with
  | closed => simp [EndsWith] at h
  | failed e' =>
      obtain rfl : e = e' := by simpa [EndsWith] using h
      refine ⟨copyError (copyError e), rfl, ?_⟩
      rw [copyError, copyError, IoError.reproduce_reproduce]
      exact e.reproduce_sameReport

/-- A terminal result of the rounds is latched, and what is latched repeats it. -/
theorem Polls.latches {n : ℕ} {r r' : RecordReader} {k k' : κ} {e : Ending}
    (hpolls : Polls abi env capacity n r k e r' k') {v : Terminal}
    (h : EndsWith capacity (.returned e.result) v) :
    ∃ t, e.terminal = some t ∧ Repeats (.returned t.verdict) v := by
  cases e with
  | data bytes =>
      cases v with
      | closed => exact absurd (by simpa [Ending.result] using h.2) (hpolls.data_ne_nil rfl)
      | failed e => simp [EndsWith, Ending.result] at h
  | notReady => cases v <;> simp [EndsWith, Ending.result] at h
  | outOfBudget => cases v <;> simp [EndsWith, Ending.result] at h
  | closed =>
      cases v with
      | closed => exact ⟨.closed, rfl, rfl⟩
      | failed e => simp [EndsWith, Ending.result] at h
  | rejected e => exact ⟨_, rfl, h.repeats_error⟩
  | ancillary e => exact ⟨_, rfl, h.repeats_error⟩
  | oversized e => exact ⟨_, rfl, h.repeats_error⟩
  | socket errno => exact ⟨_, rfl, h.repeats_error⟩
  | readiness e => exact ⟨_, rfl, h.repeats_error⟩

/-- What a reader that was terminal before returns, it goes on returning. -/
theorem EndsWith.repeats_verdict {t v : Terminal}
    (h : EndsWith capacity (.returned t.verdict) v) : Repeats (.returned t.verdict) v := by
  cases t with
  | closed =>
      cases v with
      | closed => rfl
      | failed e => simp [EndsWith, Terminal.verdict] at h
  | failed e =>
      have hrepeats := EndsWith.repeats_error (e := copyError e) h
      simp only [Terminal.verdict, copyError, IoError.reproduce_reproduce] at hrepeats ⊢
      exact hrepeats

/-- After a terminal result the reader is terminal, and repeats it. -/
theorem latched_of_endsWith {calls : List (Call κ)} {c : Call κ} {v : Terminal}
    (h : EndsWith c.capacity ((readerAfter abi calls).poll abi c).2.2 v) :
    ∃ t, (readerAfter abi (calls ++ [c])).terminal = some t ∧ Repeats (.returned t.verdict) v := by
  rw [readerAfter_concat]
  rcases hterm : (readerAfter abi calls).terminal with _ | t
  · obtain ⟨held, hheld⟩ := sound_readerAfter abi calls hterm
    by_cases hcap : c.capacity = 0
    · -- without room the poll returns no bytes, which is not taken for an end
      rw [poll_no_room hterm hcap] at h
      cases v with
      | closed => exact absurd hcap h.1.ne'
      | failed e => simp [EndsWith] at h
    · obtain ⟨e, r', k', hpolls⟩ := exists_polls abi c.env c.capacity ioBudget hheld c.socket
      rw [poll_of_polls hterm (Nat.pos_of_ne_zero hcap) hpolls] at h ⊢
      obtain ⟨t, ht, hrepeats⟩ := hpolls.latches h
      exact ⟨t, (hpolls.terminal_eq hheld).1.trans ht, hrepeats⟩
  · rw [poll_of_terminal hterm] at h ⊢
    exact ⟨t, hterm, h.repeats_verdict⟩

/-- The reader's verdict, after any history of polls. -/
structure StickyVerdict (abi : Abi) (calls : List (Call κ)) : Prop where
  /-- While the reader is live, a poll with room goes through its rounds to an ending, and the reader is
  terminal after it for the six terminal endings only. -/
  ends : ∀ c : Call κ, (readerAfter abi calls).terminal = none → 0 < c.capacity →
    ∃ e r' k', Polls abi c.env c.capacity ioBudget (readerAfter abi calls) c.socket e r' k' ∧
      (readerAfter abi calls).poll abi c = (r', k', .returned e.result) ∧ r'.terminal = e.terminal
  /-- Whatever rounds a poll goes through, it returns and latches their ending. -/
  met : ∀ (c : Call κ) (e : Ending) (r' : RecordReader) (k' : κ),
    (readerAfter abi calls).terminal = none → 0 < c.capacity →
    Polls abi c.env c.capacity ioBudget (readerAfter abi calls) c.socket e r' k' →
    (readerAfter abi calls).poll abi c = (r', k', .returned e.result) ∧ r'.terminal = e.terminal
  /-- A poll without room in its buffer does nothing to a live reader. -/
  no_room : ∀ c : Call κ, (readerAfter abi calls).terminal = none → c.capacity = 0 →
    (readerAfter abi calls).poll abi c = (readerAfter abi calls, c.socket, .returned (.ready (.ok [])))
  /-- After a terminal result every poll, whatever it meets, leaves the reader and the socket alone
  and returns the same verdict. The socket is any machine, also one that counts its calls, so that no
  `recvmsg` is made. -/
  sticky : ∀ (c : Call κ) (v : Terminal),
    EndsWith c.capacity ((readerAfter abi calls).poll abi c).2.2 v →
    ∀ later : List (Call κ),
      readerAfter abi (calls ++ [c] ++ later) = readerAfter abi (calls ++ [c]) ∧
      ∀ {κ' : Type} (c' : Call κ'), ∃ out,
        (readerAfter abi (calls ++ [c] ++ later)).poll abi c' =
          (readerAfter abi (calls ++ [c] ++ later), c'.socket, out) ∧
        Repeats out v

/-- **The verdict is sticky for every cause, and for nothing else.** -/
theorem sticky_verdict (abi : Abi) (calls : List (Call κ)) : StickyVerdict abi calls where
  ends c hlive hcap := by
    obtain ⟨held, hheld⟩ := sound_readerAfter abi calls hlive
    obtain ⟨e, r', k', hpolls⟩ := exists_polls abi c.env c.capacity ioBudget hheld c.socket
    exact ⟨e, r', k', hpolls, poll_of_polls hlive hcap hpolls, (hpolls.terminal_eq hheld).1⟩
  met c e r' k' hlive hcap hpolls := by
    obtain ⟨held, hheld⟩ := sound_readerAfter abi calls hlive
    exact ⟨poll_of_polls hlive hcap hpolls, (hpolls.terminal_eq hheld).1⟩
  no_room c hlive hcap := poll_no_room hlive hcap
  sticky c v h later := by
    obtain ⟨t, hterm, hrepeats⟩ := latched_of_endsWith h
    have hsame := readerAfter_append_of_terminal hterm later
    refine ⟨hsame, fun c' => ⟨.returned t.verdict, ?_, hrepeats⟩⟩
    rw [hsame]
    exact poll_of_terminal hterm c'

end TokioAwsLc.Ktls
