import Mathlib

/-!
# I/O errors, polls and exits

The vocabulary every poll function of the crate returns in.

* `IoError` is `std::io::Error` by its three observable shapes: an OS error code, a bare kind, and a
  kind with a message. `rawOsError`, `kind` and `display` are the accessors the crate reads.
* `IoError.reproduce` is the copy the crate keeps of an error it has already returned once:
  `duplicate_io_error` on the stream and `copy_error` in the record reader are both this function.
  A copy may lose its shape (a bare kind becomes a kind with a message), so what it keeps is stated
  as `IoError.SameReport`: the same OS code, or the same kind and message.
* `Poll` and `IoResult` are `std::task::Poll` and `std::io::Result`.
* `Exit` says how a call of a modelled function ended: it returned, it panicked, or it was still
  running when the environment's scripted answers ran out.
-/

namespace TokioAwsLc

/-! ## Errors -/

/-- Source: `std::io::ErrorKind` -/
inductive ErrorKind
  | notFound
  | permissionDenied
  | connectionRefused
  | connectionReset
  | hostUnreachable
  | networkUnreachable
  | connectionAborted
  | notConnected
  | addrInUse
  | addrNotAvailable
  | networkDown
  | brokenPipe
  | alreadyExists
  | wouldBlock
  | notADirectory
  | isADirectory
  | directoryNotEmpty
  | readOnlyFilesystem
  | filesystemLoop
  | staleNetworkFileHandle
  | invalidInput
  | invalidData
  | timedOut
  | writeZero
  | storageFull
  | notSeekable
  | quotaExceeded
  | fileTooLarge
  | resourceBusy
  | executableFileBusy
  | deadlock
  | crossesDevices
  | tooManyLinks
  | invalidFilename
  | argumentListTooLong
  | interrupted
  | unsupported
  | unexpectedEof
  | outOfMemory
  | inProgress
  | other
  | uncategorized
  deriving DecidableEq, Repr

/-- The text of an error that is only a kind.
Source: `std::io::ErrorKind::description` -/
def ErrorKind.description : ErrorKind → String
  | notFound => "entity not found"
  | permissionDenied => "permission denied"
  | connectionRefused => "connection refused"
  | connectionReset => "connection reset"
  | hostUnreachable => "host unreachable"
  | networkUnreachable => "network unreachable"
  | connectionAborted => "connection aborted"
  | notConnected => "not connected"
  | addrInUse => "address in use"
  | addrNotAvailable => "address not available"
  | networkDown => "network down"
  | brokenPipe => "broken pipe"
  | alreadyExists => "entity already exists"
  | wouldBlock => "operation would block"
  | notADirectory => "not a directory"
  | isADirectory => "is a directory"
  | directoryNotEmpty => "directory not empty"
  | readOnlyFilesystem => "read-only filesystem or storage medium"
  | filesystemLoop => "filesystem loop or indirection limit (e.g. symlink loop)"
  | staleNetworkFileHandle => "stale network file handle"
  | invalidInput => "invalid input parameter"
  | invalidData => "invalid data"
  | timedOut => "timed out"
  | writeZero => "write zero"
  | storageFull => "no storage space"
  | notSeekable => "seek on unseekable file"
  | quotaExceeded => "quota exceeded"
  | fileTooLarge => "file too large"
  | resourceBusy => "resource busy"
  | executableFileBusy => "executable file busy"
  | deadlock => "deadlock"
  | crossesDevices => "cross-device link or rename"
  | tooManyLinks => "too many links"
  | invalidFilename => "invalid filename"
  | argumentListTooLong => "argument list too long"
  | interrupted => "operation interrupted"
  | unsupported => "unsupported"
  | unexpectedEof => "unexpected end of file"
  | outOfMemory => "out of memory"
  | inProgress => "in progress"
  | other => "other error"
  | uncategorized => "uncategorized error"

/-- Linux `EINTR`. -/
def eintr : ℤ := 4

/-- Linux `EAGAIN`, which is also `EWOULDBLOCK`. -/
def eagain : ℤ := 11

/-- The kind of a Linux error code.
Source: `std::sys::decode_error_kind` -/
def decodeErrorKind (errno : ℤ) : ErrorKind :=
  if errno = eintr then .interrupted
  else if errno = eagain then .wouldBlock
  else if errno = 1 ∨ errno = 13 then .permissionDenied
  else if errno = 2 then .notFound
  else if errno = 7 then .argumentListTooLong
  else if errno = 12 then .outOfMemory
  else if errno = 16 then .resourceBusy
  else if errno = 17 then .alreadyExists
  else if errno = 18 then .crossesDevices
  else if errno = 20 then .notADirectory
  else if errno = 21 then .isADirectory
  else if errno = 22 then .invalidInput
  else if errno = 26 then .executableFileBusy
  else if errno = 27 then .fileTooLarge
  else if errno = 28 then .storageFull
  else if errno = 29 then .notSeekable
  else if errno = 30 then .readOnlyFilesystem
  else if errno = 31 then .tooManyLinks
  else if errno = 32 then .brokenPipe
  else if errno = 35 then .deadlock
  else if errno = 36 then .invalidFilename
  else if errno = 38 ∨ errno = 95 then .unsupported
  else if errno = 39 then .directoryNotEmpty
  else if errno = 40 then .filesystemLoop
  else if errno = 98 then .addrInUse
  else if errno = 99 then .addrNotAvailable
  else if errno = 100 then .networkDown
  else if errno = 101 then .networkUnreachable
  else if errno = 103 then .connectionAborted
  else if errno = 104 then .connectionReset
  else if errno = 107 then .notConnected
  else if errno = 110 then .timedOut
  else if errno = 111 then .connectionRefused
  else if errno = 113 then .hostUnreachable
  else if errno = 115 then .inProgress
  else if errno = 116 then .staleNetworkFileHandle
  else if errno = 122 then .quotaExceeded
  else .uncategorized

/-- `std::io::Error` by what can be observed of it.
Source: `std::io::Error` -/
inductive IoError
  /-- An OS error code (`from_raw_os_error`, `last_os_error`). -/
  | os (errno : ℤ)
  /-- A bare kind (`ErrorKind::into`). -/
  | simple (kind : ErrorKind)
  /-- A kind with a message (`io::Error::new`). -/
  | custom (kind : ErrorKind) (message : String)
  deriving DecidableEq, Repr

namespace IoError

/-- Source: `std::io::Error::raw_os_error` -/
def rawOsError : IoError → Option ℤ
  | os errno => some errno
  | simple _ => none
  | custom _ _ => none

/-- Source: `std::io::Error::kind` -/
def kind : IoError → ErrorKind
  | os errno => decodeErrorKind errno
  | simple k => k
  | custom k _ => k

/-- The `Display` text, without the system's description of an OS code.
Source: `std::io::Error`, `Display` -/
def display : IoError → String
  | os errno => s!"(os error {errno})"
  | simple k => k.description
  | custom _ m => m

/-- The copy of an error the crate keeps in order to return it again: the OS code when there is
one, the kind and the message otherwise.
Source: `src/stream.rs` `duplicate_io_error`; `src/ktls/io.rs` `copy_error` -/
def reproduce (e : IoError) : IoError :=
  match e.rawOsError with
  | some errno => os errno
  | none => custom e.kind e.display

/-- Two errors report the same failure: the same OS code, or no code, the same kind and the same
message. -/
def SameReport (e e' : IoError) : Prop :=
  e.rawOsError = e'.rawOsError ∧
    (e.rawOsError = none → e.kind = e'.kind ∧ e.display = e'.display)

/-- A copy reports what its original reported. -/
theorem reproduce_sameReport (e : IoError) : SameReport e.reproduce e := by
  cases e <;> simp [reproduce, SameReport, rawOsError, kind, display]

/-- Copying a copy changes nothing, so the error a stream keeps is stable under any number of
polls. -/
@[simp] theorem reproduce_reproduce (e : IoError) : e.reproduce.reproduce = e.reproduce := by
  cases e <;> rfl

/-- Source: `src/ktls/io.rs` `invalid_data` -/
def invalidData (message : String) : IoError :=
  custom .invalidData message

end IoError

/-! ## Polls and exits -/

/-- Source: `std::task::Poll` -/
inductive Poll (α : Type)
  | ready (a : α)
  | pending
  deriving DecidableEq, Repr

/-- Source: `std::task::Poll::is_pending` -/
def Poll.isPending {α : Type} : Poll α → Bool
  | .pending => true
  | .ready _ => false

/-- Source: `std::io::Result` -/
abbrev IoResult (α : Type) := Except IoError α

/-- How a call ended. `running` is a call that has not returned yet: it asked its environment for
one answer more than the script of this run holds. -/
inductive Exit (α : Type)
  | returned (a : α)
  | panicked
  | running
  deriving DecidableEq, Repr

/-- A result without its value. -/
def Exit.void {α : Type} : Exit (Poll (IoResult α)) → Exit (Poll (IoResult Unit))
  | .returned (.ready (.ok _)) => .returned (.ready (.ok ()))
  | .returned (.ready (.error e)) => .returned (.ready (.error e))
  | .returned .pending => .returned .pending
  | .panicked => .panicked
  | .running => .running

/-- Plaintext and key material. -/
abbrev Bytes := List UInt8

/-- `c_int::try_from(len)`: `none` is the failed conversion that the crate's `expect` turns into a
panic.
Source: `src/stream.rs` `TlsStream::poll_pending_write`, `TlsStream::poll_write` -/
def cInt (len : ℕ) : Option ℤ :=
  if len < 2 ^ 31 then some len else none

/-- Lengths of at most one TLS record convert. -/
theorem cInt_of_lt {len : ℕ} (h : len < 2 ^ 31) : cInt len = some (len : ℤ) :=
  if_pos h

end TokioAwsLc
