import TokioAwsLc.Ktls.Contract

/-!
# The receive side of a kTLS socket

The kernel as the record reader meets it: a queue of decrypted records, closed by a FIN, that
`recvmsg` hands out in pieces of its own choice.

* `Record`, and what a queue of records means to the application: `plaintext`, the bytes before the
  first record that is not application data, and `verdict`, what that record (or the FIN) makes of the
  stream.
* `Delivery` is the kernel's choice for one `recvmsg`; `deliver` is the fragment that comes out of it.
* `encode` writes a fragment into a message header, and `recvRecord_encode` says that `recv_record`
  reads it back.
* `Socket` scripts a whole poll, with interruptions and waits; `Socket.env` is the environment that the
  reader's loop runs in.
-/

namespace TokioAwsLc.Ktls

/-! ## Records -/

/-- A decrypted record, or what is left of it. -/
structure Record where
  recordType : UInt8
  payload : Bytes
  deriving DecidableEq, Repr

/-- How a stream ended for its reader. A call that did not return is `crashed`. -/
inductive Verdict
  | eof
  | failed (kind : ErrorKind)
  | crashed
  deriving DecidableEq, Repr

/-- A close_notify alert, of either level. -/
def IsCloseNotify (payload : Bytes) : Prop :=
  payload = [1, 0] ∨ payload = [2, 0]

instance : DecidablePred IsCloseNotify := fun payload =>
  inferInstanceAs (Decidable (payload = [1, 0] ∨ payload = [2, 0]))

/-- What a record that is not application data makes of the stream. -/
def Record.verdict (r : Record) : Verdict :=
  if r.recordType = alertType ∧ IsCloseNotify r.payload then .eof
  else if r.recordType = handshakeType ∧ r.payload ≠ [] then .failed .unsupported
  else .failed .invalidData

/-- The application data at the front of the queue. -/
def plaintext (ks : List Record) : Bytes :=
  (ks.takeWhile (·.recordType = applicationData)).flatMap (·.payload)

/-- What ends the application data: the first other record, or the FIN. -/
def verdict (ks : List Record) : Verdict :=
  match (ks.dropWhile (·.recordType = applicationData)).head? with
  | some r => r.verdict
  | none => .failed .unexpectedEof

section spec

variable {r : Record} {ks : List Record}

/-- A queue without records holds no data. -/
@[simp] theorem plaintext_nil : plaintext [] = [] := rfl

/-- A FIN without an alert is a truncation. -/
@[simp] theorem verdict_nil : verdict [] = .failed .unexpectedEof := rfl

/-- A record of application data is in front of the rest of the data. -/
theorem plaintext_cons (h : r.recordType = applicationData) :
    plaintext (r :: ks) = r.payload ++ plaintext ks := by
  simp [plaintext, h]

/-- A record of application data decides nothing. -/
theorem verdict_cons (h : r.recordType = applicationData) : verdict (r :: ks) = verdict ks := by
  simp [verdict, h]

/-- The data ends at any other record. -/
theorem plaintext_control (h : r.recordType ≠ applicationData) : plaintext (r :: ks) = [] := by
  simp [plaintext, h]

/-- Any other record decides. -/
theorem verdict_control (h : r.recordType ≠ applicationData) :
    verdict (r :: ks) = r.verdict := by
  simp [verdict, h]

end spec

/-! ## One receive -/

/-- How `recvmsg` reports the record type: not at all, once, or (older kernels, when plaintext of two
records is joined) twice. -/
inductive Cmsg
  | absent
  | once
  | twice
  deriving DecidableEq, Repr

/-- The kernel's choices for one `recvmsg`: how many bytes to hand out, into how many of the directly
following application-data records to run on, and how to report application data. -/
structure Delivery where
  want : ℕ
  further : ℕ
  cmsg : Cmsg
  deriving DecidableEq, Repr

/-- Take up to `n` bytes from a record, running on into at most `further` application-data records
that follow it. The result is the bytes, whether the last record touched is used up, and the queue
that is left. -/
def gather : ℕ → ℕ → Record → List Record → Bytes × Bool × List Record
  | further, n, r, ks =>
      if n < r.payload.length then
        (r.payload.take n, false, { r with payload := r.payload.drop n } :: ks)
      else
        match further, ks with
        | further + 1, r' :: ks' =>
            if r.recordType = applicationData ∧ r'.recordType = applicationData ∧
                r.payload.length < n then
              let more := gather further (n - r.payload.length) r' ks'
              (r.payload ++ more.1, more.2)
            else (r.payload, true, r' :: ks')
        | _, ks => (r.payload, true, ks)

/-- The number of bytes handed out: at least one, at most what fits. -/
def Delivery.size (d : Delivery) (capacity : ℕ) : ℕ :=
  max 1 (min d.want capacity)

/-- The fragment that one `recvmsg` reports, and the queue it leaves. -/
def deliver (d : Delivery) (capacity : ℕ) : List Record → Fragment × List Record
  | [] => (⟨none, 0, []⟩, [])
  | r :: ks =>
      if r.payload = [] then (⟨some r.recordType, msgEor, []⟩, ks)
      else
        let g := gather d.further (d.size capacity) r ks
        (⟨if r.recordType = applicationData ∧ d.cmsg = .absent then none else some r.recordType,
          if g.2.1 then msgEor else 0, g.1⟩, g.2.2)

/-- A record that is not application data is handed out on its own. -/
theorem gather_control {further n : ℕ} {r : Record} {ks : List Record}
    (h : r.recordType ≠ applicationData) :
    gather further n r ks =
      (r.payload.take n, decide (r.payload.length ≤ n),
        if n < r.payload.length then { r with payload := r.payload.drop n } :: ks else ks) := by
  unfold gather
  by_cases hn : n < r.payload.length
  · rw [if_pos hn, if_pos hn, decide_eq_false (not_le.mpr hn)]
  · have hle : r.payload.length ≤ n := not_lt.mp hn
    rw [if_neg hn, if_neg hn, decide_eq_true hle, List.take_of_length_le hle]
    split
    · rw [if_neg (by simp [h])]
    · rfl

/-- Application data comes out in order, and the rest of the queue means what is left. -/
theorem gather_data {further n : ℕ} {r : Record} {ks : List Record}
    (h : r.recordType = applicationData) :
    plaintext (r :: ks) = (gather further n r ks).1 ++ plaintext (gather further n r ks).2.2 ∧
      verdict (r :: ks) = verdict (gather further n r ks).2.2 := by
  fun_induction gather further n r ks with
  | case1 further n r ks hlen =>
      have hrest : ({ r with payload := r.payload.drop n } : Record).recordType = applicationData := h
      simp only [plaintext_cons h, plaintext_cons hrest, verdict_cons h, verdict_cons hrest, and_true]
      rw [← List.append_assoc, List.take_append_drop]
  | case2 n r hlen further r' ks' hrun more ih =>
      obtain ⟨hp, hv⟩ := ih hrun.2.1
      rw [plaintext_cons h, verdict_cons h, hp, hv, List.append_assoc]
      exact ⟨rfl, rfl⟩
  | case3 | case4 => exact ⟨plaintext_cons h, verdict_cons h⟩

/-- What is handed out fits. -/
theorem gather_length (further n : ℕ) (r : Record) (ks : List Record) :
    (gather further n r ks).1.length ≤ n := by
  fun_induction gather further n r ks with
  | case1 => exact List.length_take_le _ _
  | case2 n r hlen further r' ks' hrun more ih =>
      have hmore : more.1.length ≤ n - r.payload.length := ih
      simp only [List.length_append]
      omega
  | case3 n r hlen | case4 n r hlen => exact not_lt.mp ‹_›

/-- Something is handed out. -/
theorem gather_ne_nil (further : ℕ) {n : ℕ} (hn : 0 < n) {r : Record} (ks : List Record)
    (h : r.payload ≠ []) : (gather further n r ks).1 ≠ [] := by
  unfold gather
  split_ifs with hlen
  · simpa [hn.ne'] using h
  · split
    · split_ifs
      · simp [h]
      · exact h
    · exact h

/-- What is still to be read: the payloads, and one for each record. -/
def backlog (ks : List Record) : ℕ :=
  (ks.map fun r => r.payload.length + 1).sum

/-- The first record is part of the backlog. -/
@[simp] theorem backlog_cons (r : Record) (ks : List Record) :
    backlog (r :: ks) = r.payload.length + 1 + backlog ks := by
  simp [backlog]

/-- Every receive gets on with the queue. -/
theorem gather_backlog {further n : ℕ} (hn : 0 < n) (r : Record) (ks : List Record) :
    backlog (gather further n r ks).2.2 < backlog (r :: ks) := by
  fun_induction gather further n r ks with
  | case1 further n r ks hlen =>
      simp only [backlog_cons, List.length_drop]
      omega
  | case2 n r hlen further r' ks' hrun more ih =>
      have hmore : backlog more.2.2 < backlog (r' :: ks') := ih (by omega)
      simp only [backlog_cons] at hmore ⊢
      omega
  | case3 | case4 =>
      simp only [backlog_cons]
      omega

/-- Every fragment gets on with the queue. -/
theorem deliver_backlog (d : Delivery) (capacity : ℕ) {ks : List Record} (hks : ks ≠ []) :
    backlog (deliver d capacity ks).2 < backlog ks := by
  obtain ⟨r, ks, rfl⟩ := List.exists_cons_of_ne_nil hks
  by_cases hp : r.payload = []
  · simp only [deliver, if_pos hp, backlog_cons]
    omega
  · simp only [deliver, if_neg hp]
    refine gather_backlog ?_ r ks
    unfold Delivery.size
    omega

/-! ## The message header -/

/-- One control slot with a record type. -/
def typeSlot (abi : Abi) (t : UInt8) : Control :=
  ⟨abi.controlLen, solTls, tlsGetRecordType, t⟩

/-- The message header that reports a fragment, its type twice where that is asked for and the fragment
is application data. -/
def encode (abi : Abi) (cmsg : Cmsg) (f : Fragment) : RecvMsg :=
  match f.recordType with
  | none => .received f.payload 0 ⟨.new, .new⟩ f.flags
  | some t =>
      if t = applicationData ∧ cmsg = .twice then
        .received f.payload (2 * abi.controlSpace) ⟨typeSlot abi t, typeSlot abi t⟩ f.flags
      else .received f.payload abi.controlSpace ⟨typeSlot abi t, .new⟩ f.flags

/-- A slot with a record type reads as that type. -/
theorem recordType_typeSlot (abi : Abi) (t : UInt8) {flags : BitVec 32} (h : ¬ Truncated flags) :
    (typeSlot abi t).recordType abi abi.controlSpace flags = .ok (some t) := by
  have hpos : abi.controlSpace ≠ 0 := by
    have := abi.controlLen_pos
    have := abi.controlLen_le
    omega
  unfold Control.recordType
  rw [if_neg h, if_neg hpos, if_neg (by simp [typeSlot, abi.controlLen_le])]
  rfl

/-- The control buffer of a header reads as the fragment's type. -/
theorem recordType_once (abi : Abi) (t : UInt8) (second : Control) {flags : BitVec 32}
    (h : ¬ Truncated flags) :
    (⟨typeSlot abi t, second⟩ : RecvControl).recordType abi abi.controlSpace flags =
      .ok (some t) := by
  unfold RecvControl.recordType
  rw [min_self, recordType_typeSlot abi t h]
  simp only [bind, Except.bind, le_refl, if_true]
  rfl

/-- Two equal slots with application data read as one. -/
theorem recordType_twice (abi : Abi) {flags : BitVec 32} (h : ¬ Truncated flags) :
    (⟨typeSlot abi applicationData, typeSlot abi applicationData⟩ : RecvControl).recordType abi
      (2 * abi.controlSpace) flags = .ok (some applicationData) := by
  have hpos := abi.controlLen_pos
  have hle := abi.controlLen_le
  have hmin : min (2 * abi.controlSpace) abi.controlSpace = abi.controlSpace := by omega
  have hrest : 2 * abi.controlSpace - abi.controlSpace = abi.controlSpace := by omega
  unfold RecvControl.recordType
  rw [hmin, hrest, recordType_typeSlot abi applicationData h]
  simp only [bind, Except.bind]
  rw [if_neg (by omega), if_neg (by simp)]
  rfl

/-- `recv_record` reads back what the header reports. -/
theorem recvRecord_encode (abi : Abi) (cmsg : Cmsg) {f : Fragment} {capacity : ℕ}
    (htr : ¬ Truncated f.flags) (hlen : f.payload.length ≤ capacity) :
    recvRecord abi capacity (encode abi cmsg f) = .ok ⟨f.payload, f.recordType, f.flags⟩ := by
  unfold encode
  rcases hty : f.recordType with _ | t
  · have hnone : (⟨.new, .new⟩ : RecvControl).recordType abi 0 f.flags = .ok none := by
      simp [RecvControl.recordType, Control.recordType, htr]
    simp only [recvRecord, hnone]
    rw [if_neg (by omega)]
  · simp only
    split_ifs with htwice
    · obtain ⟨rfl, -⟩ := htwice
      simp only [recvRecord, recordType_twice abi htr]
      rw [if_neg (by omega)]
    · simp only [recvRecord, recordType_once abi t _ htr]
      rw [if_neg (by omega)]

/-- A fragment of the queue is not truncated. -/
theorem deliver_not_truncated (d : Delivery) (capacity : ℕ) (ks : List Record) :
    ¬ Truncated (deliver d capacity ks).1.flags := by
  have h : ¬ Truncated 0 ∧ ¬ Truncated msgEor := by decide
  unfold deliver
  split
  · exact h.1
  · rename_i r ks
    by_cases hp : r.payload = []
    · rw [if_pos hp]
      exact h.2
    · rw [if_neg hp]
      simp only
      split_ifs
      · exact h.2
      · exact h.1

/-- A fragment of the queue fits. -/
theorem deliver_length (d : Delivery) {capacity : ℕ} (hcap : 0 < capacity) (ks : List Record) :
    (deliver d capacity ks).1.payload.length ≤ capacity := by
  unfold deliver
  split
  · simp
  · rename_i r ks
    by_cases hp : r.payload = []
    · rw [if_pos hp]
      simp
    · rw [if_neg hp]
      refine (gather_length _ _ _ _).trans ?_
      unfold Delivery.size
      omega

/-- A fragment of the queue is read back as it was delivered. -/
theorem tryRecvRecord_deliver (abi : Abi) (d : Delivery) {capacity : ℕ} (hcap : 0 < capacity)
    (ks : List Record) :
    RecordReader.tryRecvRecord abi capacity (some (encode abi d.cmsg (deliver d capacity ks).1)) =
      .ok ⟨(deliver d capacity ks).1.payload, (deliver d capacity ks).1.recordType,
        (deliver d capacity ks).1.flags⟩ :=
  recvRecord_encode abi d.cmsg (deliver_not_truncated d capacity ks) (deliver_length d hcap ks)

/-! ## A socket for one poll -/

/-- What `try_io` around `recvmsg` meets: cached readiness that is clear, an `EINTR`, an `EAGAIN`, or
a fragment. -/
inductive Receive
  | notReady
  | interrupted
  | wouldBlock
  | fragment (d : Delivery)
  deriving DecidableEq, Repr

/-- The queue, and a script for the receives and the waits that follow. When a script has run out the
socket is not ready. -/
structure Socket where
  records : List Record
  receives : List Receive
  ready : List Bool
  deriving DecidableEq, Repr

namespace Socket

/-- The `try_io` around `recvmsg`. -/
def tryRecvmsg (abi : Abi) (k : Socket) (capacity : ℕ) : Socket × Option RecvMsg :=
  match k.receives with
  | [] => (k, none)
  | .notReady :: rest => ({ k with receives := rest }, none)
  | .interrupted :: rest => ({ k with receives := rest }, some (.failed eintr))
  | .wouldBlock :: rest => ({ k with receives := rest }, some (.failed eagain))
  | .fragment d :: rest =>
      let f := deliver d capacity k.records
      ({ k with records := f.2, receives := rest }, some (encode abi d.cmsg f.1))

/-- The wait for readability. -/
def pollReadReady (k : Socket) : Socket × Poll (IoResult Unit) :=
  match k.ready with
  | [] => (k, .pending)
  | false :: rest => ({ k with ready := rest }, .pending)
  | true :: rest => ({ k with ready := rest }, .ready (.ok ()))

/-- The environment of the reader's loop. -/
def env (abi : Abi) : RecvEnv Socket where
  tryRecvmsg := tryRecvmsg abi
  pollReadReady := pollReadReady
  wakeByRef := id

/-- A scripted fragment is received. -/
theorem tryRecvmsg_fragment (abi : Abi) {k : Socket} {capacity : ℕ} (hcap : 0 < capacity)
    {d : Delivery} (hd : k.receives.head? = some (.fragment d)) :
    (k.tryRecvmsg abi capacity).1.records = (deliver d capacity k.records).2 ∧
      RecordReader.tryRecvRecord abi capacity (k.tryRecvmsg abi capacity).2 =
        .ok ⟨(deliver d capacity k.records).1.payload, (deliver d capacity k.records).1.recordType,
          (deliver d capacity k.records).1.flags⟩ := by
  obtain ⟨rest, hrest⟩ := List.head?_eq_some_iff.mp hd
  unfold tryRecvmsg
  rw [hrest]
  exact ⟨rfl, tryRecvRecord_deliver abi d hcap k.records⟩

/-- **One receive.** Either nothing is received, for a reason that the loop does not report, or the
next fragment of the queue is. -/
theorem tryRecvmsg_cases (abi : Abi) (k : Socket) {capacity : ℕ} (hcap : 0 < capacity) :
    ((k.tryRecvmsg abi capacity).1.records = k.records ∧
      ∃ e, RecordReader.tryRecvRecord abi capacity (k.tryRecvmsg abi capacity).2 = .error e ∧
        (e.kind = .interrupted ∨ e.kind = .wouldBlock)) ∨
    ∃ d, (k.tryRecvmsg abi capacity).1.records = (deliver d capacity k.records).2 ∧
      RecordReader.tryRecvRecord abi capacity (k.tryRecvmsg abi capacity).2 =
        .ok ⟨(deliver d capacity k.records).1.payload, (deliver d capacity k.records).1.recordType,
          (deliver d capacity k.records).1.flags⟩ := by
  rcases hr : k.receives with _ | ⟨_ | _ | _ | d, rest⟩
  · unfold tryRecvmsg
    rw [hr]
    exact .inl ⟨rfl, .simple .wouldBlock, rfl, .inr rfl⟩
  · unfold tryRecvmsg
    rw [hr]
    exact .inl ⟨rfl, .simple .wouldBlock, rfl, .inr rfl⟩
  · unfold tryRecvmsg
    rw [hr]
    exact .inl ⟨rfl, .os eintr, rfl, .inl rfl⟩
  · unfold tryRecvmsg
    rw [hr]
    exact .inl ⟨rfl, .os eagain, rfl, .inr rfl⟩
  · exact .inr ⟨d, tryRecvmsg_fragment abi hcap (by rw [hr]; rfl)⟩

/-- **One wait.** It leaves the queue alone and does not fail. -/
theorem pollReadReady_cases (k : Socket) :
    k.pollReadReady.1.records = k.records ∧
      (k.pollReadReady.2 = .pending ∨ k.pollReadReady.2 = .ready (.ok ())) := by
  unfold pollReadReady
  rcases k.ready with _ | ⟨_ | _, rest⟩
  · exact ⟨rfl, .inl rfl⟩
  · exact ⟨rfl, .inl rfl⟩
  · exact ⟨rfl, .inr rfl⟩

end Socket

end TokioAwsLc.Ktls
