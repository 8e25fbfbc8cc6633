import TokioAwsLc.Io.Error
import TokioAwsLc.Lib.Framing

/-!
# The ALPN wire codec

A list of ALPN protocols travels as `<len><bytes>` repeated. `iter_alpn_wire` takes such a buffer apart,
`encode_alpn_wire` puts one together. The decoder stops silently at an entry that is cut off; it lets
entries of length zero through, which the encoder refuses.

* `iterAlpnWireNext` is one step of the iterator, `iterAlpnWire` what a loop over it collects. Both keep
  the panics of the indexing and the slicing; `next_cons` says that there are none.
* `wire protos` is the format itself. An entry is a frame whose head announces its length by
  `UInt8.toNat`; `iterAlpnWire_splits` and `encodeAlpnWire_eq_ok_iff` state the two functions in these
  terms.
* `alpn_codec` is the result.
-/

namespace TokioAwsLc.Config

open Lib.Framing (Frame Splits Stuck write)

/-! ## Decoding -/

/-- One `next` of the iterator over the rest of the buffer: the entry and what follows it.
Source: `src/config/mod.rs` `iter_alpn_wire` -/
def iterAlpnWireNext (buf : Bytes) : Exit (Option (Bytes × Bytes)) :=
  if buf = [] then .returned none
  else
    -- `buf[0]`
    match buf[0]? with
    | none => .panicked
    | some len =>
        if buf.length < 1 + len.toNat then .returned none
        -- `buf[1..]` and `split_at(len)`
        else if buf.length < 1 ∨ (buf.drop 1).length < len.toNat then .panicked
        else .returned (some ((buf.drop 1).take len.toNat, (buf.drop 1).drop len.toNat))

/-- On a buffer that is not empty every index is in range: the step yields the entry, or stops where it
is cut off. -/
theorem next_cons (len : UInt8) (v : Bytes) :
    iterAlpnWireNext (len :: v) =
      .returned (if v.length < len.toNat then none
        else some (v.take len.toNat, v.drop len.toNat)) := by
  simp only [iterAlpnWireNext, List.cons_ne_nil, if_false, List.getElem?_cons_zero,
    List.length_cons, List.drop_one, List.tail_cons]
  by_cases hlen : v.length < len.toNat
  · have hshort : v.length + 1 < 1 + len.toNat := by omega
    rw [if_pos hlen, if_pos hshort]
  · have hlong : ¬ v.length + 1 < 1 + len.toNat := by omega
    have hrange : ¬ (v.length + 1 < 1 ∨ v.length < len.toNat) := by omega
    rw [if_neg hlen, if_neg hlong, if_neg hrange]

/-- The iterator gets on with its buffer. -/
theorem length_lt_of_next {buf proto rest : Bytes}
    (h : iterAlpnWireNext buf = .returned (some (proto, rest))) : rest.length < buf.length := by
  rcases buf with _ | ⟨len, v⟩
  · cases h
  · rw [next_cons] at h
    split_ifs at h
    · cases h
    · cases h
      rw [List.length_drop, List.length_cons]
      omega

/-- The entries of a buffer.
Source: `src/config/mod.rs` `iter_alpn_wire` -/
def iterAlpnWire (buf : Bytes) : Exit (List Bytes) :=
  match h : iterAlpnWireNext buf with
  | .returned none => .returned []
  | .returned (some (proto, rest)) =>
      have : rest.length < buf.length := length_lt_of_next h
      match iterAlpnWire rest with
      | .returned protos => .returned (proto :: protos)
      | .panicked => .panicked
      | .running => .running
  | .panicked => .panicked
  | .running => .running
termination_by buf.length

/-! ## Encoding -/

/-- Source: `src/config/mod.rs` `AlpnEncodeError` -/
inductive AlpnEncodeError
  | empty
  | tooLong
  deriving DecidableEq, Repr

/-- Source: `src/config/mod.rs` `AlpnEncodeError`, `Display` -/
def AlpnEncodeError.display : AlpnEncodeError → String
  | .empty => "ALPN protocol identifier must be non-empty"
  | .tooLong => "ALPN protocol identifier exceeds 255 bytes"

/-- `u8::try_from(len)`. -/
def u8TryFrom (len : ℕ) : Option UInt8 :=
  if len < 256 then some (UInt8.ofNat len) else none

/-- The loop of `encode_alpn_wire`, with the buffer it has written.
Source: `src/config/mod.rs` `encode_alpn_wire` -/
def encodeLoop : Bytes → List Bytes → Except AlpnEncodeError Bytes
  | out, [] => .ok out
  | out, p :: protos =>
      if p = [] then .error .empty
      else
        match u8TryFrom p.length with
        | none => .error .tooLong
        | some len => encodeLoop (out ++ [len] ++ p) protos

/-- Source: `src/config/mod.rs` `encode_alpn_wire` -/
def encodeAlpnWire (protos : List Bytes) : Except AlpnEncodeError Bytes :=
  encodeLoop [] protos

/-! ## Both as frames -/

/-- The wire format: the length of each protocol, as a byte, and its bytes. -/
def wire (protos : List Bytes) : Bytes :=
  protos.flatMap fun p => UInt8.ofNat p.length :: p

/-- No protocols take no bytes. -/
@[simp] theorem wire_nil : wire [] = [] := rfl

/-- A protocol is its length in one byte and its name, before the others. -/
@[simp] theorem wire_cons (p : Bytes) (protos : List Bytes) :
    wire (p :: protos) = UInt8.ofNat p.length :: (p ++ wire protos) := by
  simp [wire]

/-- The wire form of two lists is that of the one and then of the other. -/
@[simp] theorem wire_append (protos protos' : List Bytes) :
    wire (protos ++ protos') = wire protos ++ wire protos' := by
  simp [wire]

/-- The protocols that frames hold. -/
def bodies (fs : List (Frame UInt8.toNat)) : List Bytes :=
  fs.map Frame.body

/-- The names are read off frame by frame. -/
@[simp] theorem bodies_cons (f : Frame UInt8.toNat) (fs : List (Frame UInt8.toNat)) :
    bodies (f :: fs) = f.body :: bodies fs := rfl

/-- A frame is the wire format of what it holds. -/
theorem write_eq_wire (fs : List (Frame UInt8.toNat)) : write fs = wire (bodies fs) := by
  induction fs with
  | nil => rfl
  | cons f fs ih =>
      have hhead : UInt8.ofNat f.body.length = f.head := by
        rw [f.length_body, UInt8.ofNat_toNat]
      rw [Lib.Framing.write_cons, ih]
      simp only [bodies_cons, wire_cons, hhead]

/-- What a frame holds fits its length byte. -/
theorem length_lt_of_mem_bodies {fs : List (Frame UInt8.toNat)} {p : Bytes} (h : p ∈ bodies fs) :
    p.length < 256 := by
  obtain ⟨f, -, rfl⟩ := List.mem_map.mp h
  rw [f.length_body]
  exact f.head.toNat_lt

/-- Protocols that fit their length byte are held by frames. -/
theorem exists_bodies_eq {protos : List Bytes} (h : ∀ p ∈ protos, p.length < 256) :
    ∃ fs, bodies fs = protos := by
  induction protos with
  | nil => exact ⟨[], rfl⟩
  | cons p protos ih =>
      obtain ⟨fs, hfs⟩ := ih fun q hq => h q (List.mem_cons_of_mem p hq)
      have hp : p.length < 256 := h p List.mem_cons_self
      refine ⟨⟨UInt8.ofNat p.length, p, (UInt8.toNat_ofNat_of_lt' hp).symm⟩ :: fs, ?_⟩
      rw [bodies_cons, hfs]

/-- One step of the iterator on a frame. -/
theorem next_frame (f : Frame UInt8.toNat) (v : Bytes) :
    iterAlpnWireNext (f.head :: (f.body ++ v)) = .returned (some (f.body, v)) := by
  have hlong : ¬ (f.body ++ v).length < f.head.toNat := by
    rw [List.length_append, f.length_body]
    omega
  rw [next_cons, if_neg hlong, ← f.length_body, List.take_left, List.drop_left]

/-- The iterator ends where no frame can be taken off. -/
theorem next_stuck {w : Bytes} (h : Stuck UInt8.toNat w) : iterAlpnWireNext w = .returned none := by
  rcases h with rfl | ⟨len, v, rfl, hlt⟩
  · rfl
  · rw [next_cons, if_pos hlt]

/-- Decoding, one frame at a time. -/
theorem iterAlpnWire_frame (f : Frame UInt8.toNat) (v : Bytes) {protos : List Bytes}
    (h : iterAlpnWire v = .returned protos) :
    iterAlpnWire (f.head :: (f.body ++ v)) = .returned (f.body :: protos) := by
  have hnext := next_frame f v
  rw [iterAlpnWire]
  split
  · simp_all
  · rename_i proto rest heq
    rw [hnext] at heq
    obtain ⟨rfl, rfl⟩ := Prod.mk.inj (Option.some.inj (Exit.returned.inj heq))
    simp only [h]
  · simp_all
  · simp_all

/-- Decoding stops where no frame can be taken off. -/
theorem iterAlpnWire_stuck {w : Bytes} (h : Stuck UInt8.toNat w) : iterAlpnWire w = .returned [] := by
  have hnext := next_stuck h
  rw [iterAlpnWire]
  split <;> simp_all

/-- **The decoder collects the frames**, by induction on them. -/
theorem iterAlpnWire_splits {w rest : Bytes} {fs : List (Frame UInt8.toNat)}
    (h : Splits UInt8.toNat w fs rest) : iterAlpnWire w = .returned (bodies fs) := by
  obtain ⟨rfl, hstuck⟩ := h
  induction fs with
  | nil => exact iterAlpnWire_stuck hstuck
  | cons f fs ih =>
      rw [Lib.Framing.write_cons, List.cons_append, List.append_assoc]
      exact iterAlpnWire_frame f _ ih

/-- The loop of the encoder, by induction on the protocols: it appends their wire format, if each of them
has between 1 and 255 bytes. -/
theorem encodeLoop_eq_ok_iff (out : Bytes) (protos : List Bytes) (w : Bytes) :
    encodeLoop out protos = .ok w ↔
      (∀ p ∈ protos, 1 ≤ p.length ∧ p.length ≤ 255) ∧ w = out ++ wire protos := by
  induction protos generalizing out with
  | nil => simp [encodeLoop, eq_comm]
  | cons p protos ih =>
      unfold encodeLoop
      by_cases hempty : p = []
      · rw [if_pos hempty]
        simp [hempty]
      rw [if_neg hempty]
      have hpos : 1 ≤ p.length := List.length_pos_iff.mpr hempty
      by_cases hlen : p.length < 256
      · have hle : p.length ≤ 255 := by omega
        simp only [u8TryFrom, if_pos hlen, ih, List.forall_mem_cons, hpos, hle, and_self, true_and,
          wire_cons, List.append_assoc, List.cons_append, List.nil_append]
      · have hle : ¬ p.length ≤ 255 := by omega
        simp [u8TryFrom, hlen, hle]

/-- **The encoder writes the wire format** of the protocols that have between 1 and 255 bytes. -/
theorem encodeAlpnWire_eq_ok_iff (protos : List Bytes) (w : Bytes) :
    encodeAlpnWire protos = .ok w ↔
      (∀ p ∈ protos, 1 ≤ p.length ∧ p.length ≤ 255) ∧ w = wire protos :=
  encodeLoop_eq_ok_iff [] protos w

/-- An encoded list splits into the frames of its protocols, with nothing left over. -/
theorem splits_encoded {protos : List Bytes} {w : Bytes} (h : encodeAlpnWire protos = .ok w) :
    ∃ fs, Splits UInt8.toNat w fs [] ∧ bodies fs = protos := by
  obtain ⟨hlen, rfl⟩ := (encodeAlpnWire_eq_ok_iff protos w).mp h
  obtain ⟨fs, hfs⟩ := exists_bodies_eq fun p hp => Nat.lt_succ_of_le (hlen p hp).2
  refine ⟨fs, ⟨?_, Lib.Framing.stuck_nil⟩, hfs⟩
  rw [write_eq_wire, hfs, List.append_nil]

/-! ## The laws -/

/-- The laws of the codec. -/
structure AlpnCodec : Prop where
  /-- The encoder accepts protocols of 1 to 255 bytes. -/
  encodes_iff : ∀ protos, (∃ w, encodeAlpnWire protos = .ok w) ↔
    ∀ p ∈ protos, 1 ≤ p.length ∧ p.length ≤ 255
  /-- Decoding undoes encoding. -/
  decode_encode : ∀ protos w, encodeAlpnWire protos = .ok w → iterAlpnWire w = .returned protos
  /-- Different lists are encoded differently. -/
  injective : ∀ protos protos' w, encodeAlpnWire protos = .ok w → encodeAlpnWire protos' = .ok w →
    protos = protos'
  /-- Decoding terminates without a panic on every buffer, which is the wire format of the entries
  followed by nothing, or by an entry that is cut off. -/
  decode : ∀ w, ∃ protos rest, iterAlpnWire w = .returned protos ∧
    (∀ p ∈ protos, p.length ≤ 255) ∧ w = wire protos ++ rest ∧
    (rest = [] ∨ ∃ len v, rest = len :: v ∧ v.length < len.toNat)
  /-- Encoding undoes decoding when no entry is empty and nothing is left over. -/
  encode_decode : ∀ protos w, iterAlpnWire w = .returned protos → (∀ p ∈ protos, p ≠ []) →
    w = wire protos → encodeAlpnWire protos = .ok w

/-- **The codec laws.** -/
theorem alpn_codec : AlpnCodec where
  encodes_iff protos := by
    constructor
    · rintro ⟨w, h⟩
      exact ((encodeAlpnWire_eq_ok_iff protos w).mp h).1
    · intro h
      exact ⟨wire protos, (encodeAlpnWire_eq_ok_iff protos _).mpr ⟨h, rfl⟩⟩
  decode_encode protos w h := by
    obtain ⟨fs, hsplits, rfl⟩ := splits_encoded h
    exact iterAlpnWire_splits hsplits
  injective protos protos' w h h' := by
    obtain ⟨fs, hsplits, rfl⟩ := splits_encoded h
    obtain ⟨fs', hsplits', rfl⟩ := splits_encoded h'
    rw [(hsplits.unique hsplits').1]
  decode w := by
    obtain ⟨fs, rest, hsplits⟩ := Lib.Framing.exists_splits UInt8.toNat w
    refine ⟨bodies fs, rest, iterAlpnWire_splits hsplits, ?_, ?_, hsplits.stuck⟩
    · intro p hp
      exact Nat.le_of_lt_succ (length_lt_of_mem_bodies hp)
    · rw [← write_eq_wire]
      exact hsplits.eq
  encode_decode protos w h hne hw := by
    obtain ⟨fs, rest, hsplits⟩ := Lib.Framing.exists_splits UInt8.toNat w
    rw [iterAlpnWire_splits hsplits] at h
    obtain rfl := Exit.returned.inj h
    refine (encodeAlpnWire_eq_ok_iff _ w).mpr ⟨fun p hp => ⟨?_, ?_⟩, hw⟩
    · exact List.length_pos_iff.mpr (hne p hp)
    · exact Nat.le_of_lt_succ (length_lt_of_mem_bodies hp)

end TokioAwsLc.Config
