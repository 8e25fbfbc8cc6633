import TokioAwsLc.Io.Error

/-!
# Ancillary data of a kTLS receive

`recvmsg` on a kTLS socket reports the TLS record type in a control message. This module embeds the
parser for it and `recv_record`, the one function of the crate that calls `recvmsg`.

* `Control` and `RecvControl` are the one-slot and the two-slot control buffer; `recordType` of each
  is the parser of that buffer. The lengths `CMSG_LEN(1)` and `CMSG_SPACE(1)` differ between libc
  ABIs, so they are an `Abi` that carries the order between them.
* `RecvMsg` is what one `recvmsg` call reports, `recvRecord` what the crate makes of it. The payload
  stands for the first `n` bytes of the destination buffer.
-/

namespace TokioAwsLc.Ktls

/-! ## Flags and constants -/

/-- Linux `MSG_CTRUNC`. -/
def msgCtrunc : BitVec 32 := 0x08
/-- Linux `MSG_TRUNC`. -/
def msgTrunc : BitVec 32 := 0x20
/-- Linux `MSG_EOR`. -/
def msgEor : BitVec 32 := 0x80

/-- `flags & (MSG_CTRUNC | MSG_TRUNC) != 0`. -/
def Truncated (flags : BitVec 32) : Prop :=
  flags &&& (msgCtrunc ||| msgTrunc) ≠ 0

instance : DecidablePred Truncated := fun flags =>
  inferInstanceAs (Decidable (flags &&& (msgCtrunc ||| msgTrunc) ≠ 0))

/-- `flags & MSG_EOR != 0`. -/
def EndOfRecord (flags : BitVec 32) : Prop :=
  flags &&& msgEor ≠ 0

instance : DecidablePred EndOfRecord := fun flags =>
  inferInstanceAs (Decidable (flags &&& msgEor ≠ 0))

/-- The combined test asks for either flag. -/
theorem not_truncated_iff (flags : BitVec 32) :
    ¬ Truncated flags ↔ flags &&& msgCtrunc = 0 ∧ flags &&& msgTrunc = 0 := by
  unfold Truncated
  rw [not_not, BitVec.and_or_distrib_left]
  exact BitVec.or_eq_zero_iff

/-- Source: `libc::SOL_TLS` -/
def solTls : ℤ := 282
/-- Source: `src/ktls/io.rs` `TLS_GET_RECORD_TYPE` -/
def tlsGetRecordType : ℤ := 2
/-- Source: `src/ktls/io.rs` `ALERT` -/
def alertType : UInt8 := 21
/-- Source: `src/ktls/io.rs` `HANDSHAKE` -/
def handshakeType : UInt8 := 22
/-- Source: `src/ktls/io.rs` `APPLICATION_DATA` -/
def applicationData : UInt8 := 23

/-- The control-message sizes of a libc ABI.
Source: `src/ktls/io.rs` `CONTROL_LEN`, `CONTROL_SPACE` -/
structure Abi where
  /-- `CMSG_LEN(1)`. -/
  controlLen : ℕ
  /-- `CMSG_SPACE(1)`. -/
  controlSpace : ℕ
  controlLen_pos : 0 < controlLen
  controlLen_le : controlLen ≤ controlSpace

/-! ## The control buffers -/

/-- One control slot: the header's fields and the first payload byte, the only ones that are read.
Source: `src/ktls/io.rs` `Control` -/
structure Control where
  cmsgLen : ℕ
  cmsgLevel : ℤ
  cmsgType : ℤ
  payload : UInt8
  deriving DecidableEq, Repr

/-- Source: `src/ktls/io.rs` `Control::new` -/
def Control.new : Control :=
  ⟨0, 0, 0, 0⟩

/-- Source: `src/ktls/io.rs` `Control::record_type` -/
def Control.recordType (abi : Abi) (c : Control) (len : ℕ) (flags : BitVec 32) :
    IoResult (Option UInt8) :=
  if Truncated flags then
    .error (.invalidData "truncated kTLS recvmsg payload or ancillary data")
  else if len = 0 then
    .ok none
  else if ¬ (abi.controlLen ≤ len ∧ len ≤ abi.controlSpace) ∨ c.cmsgLen ≠ abi.controlLen ∨
      c.cmsgLevel ≠ solTls ∨ c.cmsgType ≠ tlsGetRecordType then
    .error (.invalidData "invalid kTLS record-type ancillary message")
  else
    .ok (some c.payload)

/-- Source: `src/ktls/io.rs` `RecvControl` -/
structure RecvControl where
  first : Control
  second : Control
  deriving DecidableEq, Repr

/-- Source: `src/ktls/io.rs` `RecvControl::record_type` -/
def RecvControl.recordType (abi : Abi) (c : RecvControl) (len : ℕ) (flags : BitVec 32) :
    IoResult (Option UInt8) := do
  let first ← c.first.recordType abi (min len abi.controlSpace) flags
  if len ≤ abi.controlSpace then
    return first
  let second ← c.second.recordType abi (len - abi.controlSpace) flags
  if first ≠ some applicationData ∨ second ≠ first then
    .error (.invalidData "conflicting or unsupported duplicate kTLS record-type messages")
  else
    return first

/-! ## One receive -/

/-- What one `recvmsg` call reports: an error code, or the received bytes, the control length it
wrote back, the control buffer and the message flags. -/
inductive RecvMsg
  | failed (errno : ℤ)
  | received (payload : Bytes) (controllen : ℕ) (control : RecvControl) (flags : BitVec 32)
  deriving DecidableEq, Repr

/-- Source: `src/ktls/io.rs` `Received`, with the bytes its `len` counts -/
structure Received where
  payload : Bytes
  recordType : Option UInt8
  flags : BitVec 32
  deriving DecidableEq, Repr

/-- `{:#x}` of a flag word. -/
def hex (flags : BitVec 32) : String :=
  "0x" ++ String.ofList (Nat.toDigits 16 flags.toNat)

/-- `{:?}` of an optional record type. -/
def debugType : Option UInt8 → String
  | none => "None"
  | some t => s!"Some({t})"

/-- Source: `src/ktls/io.rs` `recv_error` -/
def recvError (abi : Abi) (error : IoError) (flags : BitVec 32) (controllen : ℕ)
    (control : RecvControl) (received capacity : ℕ) : IoError :=
  let firstRecordType :=
    match control.first.recordType abi (min controllen abi.controlSpace) 0 with
    | .ok t => t
    | .error _ => none
  let text := error.display
  let msgFlags := hex flags
  let ctrunc := decide (flags &&& msgCtrunc ≠ 0)
  let trunc := decide (flags &&& msgTrunc ≠ 0)
  let eor := decide (flags &&& msgEor ≠ 0)
  let capacityOfControl := 2 * abi.controlSpace
  let cmsgLen := control.first.cmsgLen
  let cmsgLevel := control.first.cmsgLevel
  let cmsgType := control.first.cmsgType
  let recordType := debugType firstRecordType
  .custom error.kind
    (s!"{text} (recvmsg: msg_flags={msgFlags}, MSG_CTRUNC={ctrunc}, MSG_TRUNC={trunc}, " ++
      s!"MSG_EOR={eor}, received={received}, capacity={capacity}, msg_controllen={controllen}, " ++
      s!"control_capacity={capacityOfControl}, cmsg_len={cmsgLen}, cmsg_level={cmsgLevel}, " ++
      s!"cmsg_type={cmsgType}, first_record_type={recordType})")

/-- Source: `src/ktls/io.rs` `recv_record`, on the outcome of its `recvmsg` -/
def recvRecord (abi : Abi) (capacity : ℕ) : RecvMsg → IoResult Received
  | .failed errno => .error (.os errno)
  | .received payload controllen control flags =>
      match control.recordType abi controllen flags with
      | .error e => .error (recvError abi e flags controllen control payload.length capacity)
      | .ok recordType =>
          if capacity < payload.length then
            .error (recvError abi (.invalidData "kTLS recvmsg exceeded its destination buffer")
              flags controllen control payload.length capacity)
          else
            .ok ⟨payload, recordType, flags⟩

end TokioAwsLc.Ktls
