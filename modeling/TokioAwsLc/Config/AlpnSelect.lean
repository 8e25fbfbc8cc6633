import TokioAwsLc.Config.Alpn
import TokioAwsLc.Config.Context

/-!
# The server's choice of an ALPN protocol

AWS-LC hands the client's offer to `alpn_select_cb` as it arrived. The callback goes over the server's
buffer, which is kept as ex_data of the context, and for every entry once over the client's.

* `offersLoop` and `selectLoop` are the two loops, on the iterator of `TokioAwsLc.Config.Alpn`. The outer
  one carries the offset that it has reached in the server's buffer, since the pointer it hands out
  points there.
* `offersLoop_splits` and `selectLoop_splits` are the loops on buffers that are split into frames.
* `alpn_selection` is the result, on every buffer that a client can send.
-/

namespace TokioAwsLc.Config

open Lib.Framing (Frame Splits IsLongest write)

/-! ## The callback -/

/-- What the callback returns: `SSL_TLSEXT_ERR_OK` or `SSL_TLSEXT_ERR_ALERT_FATAL`. -/
inductive SelectCode
  | ok
  | alertFatal
  deriving DecidableEq, Repr

/-- A pointer that `*out` can hold: one into the server's buffer, or what the caller left there. -/
inductive OutPtr
  | caller (address : ℕ)
  | server (offset : ℕ)
  deriving DecidableEq, Repr

/-- The out-parameters `*out` and `*out_len`. -/
structure OutParams where
  out : OutPtr
  outLen : UInt8
  deriving DecidableEq, Repr

/-- The loop over the client's entries: does one of them equal the server's?
Source: `src/config/server.rs` `alpn_select_cb` -/
def offersLoop (serverProto clientWire : Bytes) : Exit Bool :=
  match h : iterAlpnWireNext clientWire with
  | .returned none => .returned false
  | .returned (some (clientProto, rest)) =>
      have : rest.length < clientWire.length := length_lt_of_next h
      if serverProto = clientProto then .returned true else offersLoop serverProto rest
  | .panicked => .panicked
  | .running => .running
termination_by clientWire.length

/-- The loop over the server's entries, from the offset `off` of its buffer on.
Source: `src/config/server.rs` `alpn_select_cb` -/
def selectLoop (clientWire : Bytes) (before : OutParams) (off : ℕ) (serverWire : Bytes) :
    Exit (SelectCode × OutParams) :=
  match h : iterAlpnWireNext serverWire with
  | .returned none => .returned (.alertFatal, before)
  | .returned (some (serverProto, rest)) =>
      have : rest.length < serverWire.length := length_lt_of_next h
      match offersLoop serverProto clientWire with
      -- the entry begins after its length byte
      | .returned true => .returned (.ok, ⟨.server (off + 1), UInt8.ofNat serverProto.length⟩)
      | .returned false => selectLoop clientWire before (off + 1 + serverProto.length) rest
      | .panicked => .panicked
      | .running => .running
  | .panicked => .panicked
  | .running => .running
termination_by serverWire.length

/-- The callback of a session with the context `ctx`, where `none` is a null pointer.
Source: `src/config/server.rs` `alpn_select_cb` -/
def alpnSelectCb {Cert Key : Type} (ctx : Option (SslCtx Cert Key)) (clientWire : Bytes)
    (before : OutParams) : Exit (SelectCode × OutParams) :=
  match ctx with
  | none => .returned (.alertFatal, before)
  | some ctx =>
      match ctx.alpnWire with
      | none => .returned (.alertFatal, before)
      | some serverWire => selectLoop clientWire before 0 serverWire

/-! ## The loops on frames -/

/-- At the end of the client's list, or where it is malformed, the protocol was not offered. -/
theorem offersLoop_of_next_none {p w : Bytes} (h : iterAlpnWireNext w = .returned none) :
    offersLoop p w = .returned false := by
  rw [offersLoop]
  split <;> simp_all

/-- One entry of the client's list: it is the protocol, or the search goes on behind it. -/
theorem offersLoop_of_next_some {p w q rest : Bytes}
    (h : iterAlpnWireNext w = .returned (some (q, rest))) :
    offersLoop p w = if p = q then .returned true else offersLoop p rest := by
  rw [offersLoop]
  split
  · simp_all
  · rename_i heq
    rw [h] at heq
    obtain ⟨rfl, rfl⟩ := Prod.mk.inj (Option.some.inj (Exit.returned.inj heq))
    rfl
  · simp_all
  · simp_all

/-- The inner loop looks for the protocol among the client's frames. -/
theorem offersLoop_splits (p : Bytes) {w rest : Bytes} {cs : List (Frame UInt8.toNat)}
    (h : Splits UInt8.toNat w cs rest) : offersLoop p w = .returned (decide (p ∈ bodies cs)) := by
  obtain ⟨rfl, hstuck⟩ := h
  induction cs with
  | nil => exact offersLoop_of_next_none (next_stuck hstuck)
  | cons c cs ih =>
      rw [Lib.Framing.write_cons, List.cons_append, List.append_assoc,
        offersLoop_of_next_some (next_frame c _), ih]
      by_cases heq : p = c.body
      · simp [bodies, heq]
      · simp [bodies, heq]

/-- At the end of the server's list the handshake is refused, and the out-parameters stay as they were. -/
theorem selectLoop_of_next_none {clientWire w : Bytes} {before : OutParams} {off : ℕ}
    (h : iterAlpnWireNext w = .returned none) :
    selectLoop clientWire before off w = .returned (.alertFatal, before) := by
  rw [selectLoop]
  split <;> simp_all

/-- One entry of the server's list: the callback returns a pointer into it if the client offers it, and goes
on behind it otherwise. -/
theorem selectLoop_of_next_some {clientWire w p rest : Bytes} {before : OutParams} {off : ℕ}
    {offered : Bool} (h : iterAlpnWireNext w = .returned (some (p, rest)))
    (hoffers : offersLoop p clientWire = .returned offered) :
    selectLoop clientWire before off w =
      if offered then .returned (.ok, ⟨.server (off + 1), UInt8.ofNat p.length⟩)
      else selectLoop clientWire before (off + 1 + p.length) rest := by
  rw [selectLoop]
  split
  · simp_all
  · rename_i heq
    rw [h] at heq
    obtain ⟨rfl, rfl⟩ := Prod.mk.inj (Option.some.inj (Exit.returned.inj heq))
    cases offered <;> simp [hoffers]
  · simp_all
  · simp_all

/-- What the outer loop returns when it has reached `off` and the entries `ps` are left. -/
def selection (before : OutParams) (client : List Bytes) : ℕ → List Bytes → SelectCode × OutParams
  | _, [] => (.alertFatal, before)
  | off, p :: ps =>
      if p ∈ client then (.ok, ⟨.server (off + 1), UInt8.ofNat p.length⟩)
      else selection before client (off + 1 + p.length) ps

/-- The outer loop goes over the server's frames. -/
theorem selectLoop_splits (before : OutParams) (off : ℕ) {clientWire crest : Bytes}
    {cs : List (Frame UInt8.toNat)} (hclient : Splits UInt8.toNat clientWire cs crest)
    {w rest : Bytes} {fs : List (Frame UInt8.toNat)} (h : Splits UInt8.toNat w fs rest) :
    selectLoop clientWire before off w = .returned (selection before (bodies cs) off (bodies fs)) := by
  obtain ⟨rfl, hstuck⟩ := h
  induction fs generalizing off with
  | nil => exact selectLoop_of_next_none (next_stuck hstuck)
  | cons f fs ih =>
      rw [Lib.Framing.write_cons, List.cons_append, List.append_assoc,
        selectLoop_of_next_some (next_frame f _) (offersLoop_splits f.body hclient), ih]
      rw [bodies_cons, selection]
      by_cases hmem : f.body ∈ bodies cs
      · simp [hmem]
      · simp [hmem]

/-- With nothing in common, the out-parameters stay as they are. -/
theorem selection_of_disjoint (before : OutParams) (off : ℕ) {ps client : List Bytes}
    (h : ps.Disjoint client) : selection before client off ps = (.alertFatal, before) := by
  induction ps generalizing off with
  | nil => rfl
  | cons p ps ih =>
      obtain ⟨hp, hps⟩ := List.disjoint_cons_left.mp h
      rw [selection, if_neg hp]
      exact ih _ hps

/-- The first common entry is selected, where it stands in the wire format. -/
theorem selection_of_common (before : OutParams) (off : ℕ) {client skipped ps : List Bytes} {p : Bytes}
    (hskipped : skipped.Disjoint client) (hp : p ∈ client) :
    selection before client off (skipped ++ p :: ps) =
      (.ok, ⟨.server (off + (wire skipped).length + 1), UInt8.ofNat p.length⟩) := by
  induction skipped generalizing off with
  | nil =>
      rw [List.nil_append, selection, if_pos hp]
      rfl
  | cons q skipped ih =>
      obtain ⟨hq, hrest⟩ := List.disjoint_cons_left.mp hskipped
      rw [List.cons_append, selection, if_neg hq, ih _ hrest, wire_cons, List.length_cons,
        List.length_append]
      have hoff : off + 1 + q.length + (wire skipped).length + 1
          = off + (q.length + (wire skipped).length + 1) + 1 := by omega
      rw [hoff]

/-! ## The choice -/

/-- The callback returned, and has chosen from the server's protocols `protos`, encoded in `serverWire`,
and the client's protocols `client`, as it should. -/
structure Chooses (protos client : List Bytes) (serverWire : Bytes) (before : OutParams)
    (code : SelectCode) (after : OutParams) : Prop where
  /-- The first protocol of the server that the client has is selected, and the out-parameters are
  exactly its bytes in the server's buffer. -/
  selects : ∀ p, protos.find? (· ∈ client) = some p → code = .ok ∧
    ∃ off, after.out = .server off ∧ (serverWire.drop off).take p.length = p ∧
      after.outLen.toNat = p.length
  /-- The handshake is refused iff there is none. -/
  fatal_iff : code = .alertFatal ↔ protos.Disjoint client
  /-- Then the out-parameters are not touched. -/
  untouched : code = .alertFatal → after = before
  /-- No empty protocol is selected. -/
  nonempty : code = .ok → after.outLen ≠ 0

/-- With nothing in common the handshake is refused. -/
theorem chooses_of_disjoint {protos client : List Bytes} {serverWire : Bytes} (before : OutParams)
    (hdisjoint : protos.Disjoint client) :
    Chooses protos client serverWire before .alertFatal before where
  selects p hfind := by
    have hmem := List.mem_of_find?_eq_some hfind
    have hclient := List.find?_some hfind
    exact (hdisjoint hmem (of_decide_eq_true hclient)).elim
  fatal_iff := by
    constructor
    · intro _
      exact hdisjoint
    · intro _
      rfl
  untouched _ := rfl
  nonempty hok := by cases hok

/-- The first common entry of an encoded list is found behind those that are skipped. -/
theorem chooses_of_common {client skipped ps : List Bytes} {p : Bytes} (before : OutParams)
    (hlen : 1 ≤ p.length ∧ p.length ≤ 255)
    (hfind : (skipped ++ p :: ps).find? (· ∈ client) = some p) (hp : p ∈ client) :
    Chooses (skipped ++ p :: ps) client (wire (skipped ++ p :: ps)) before .ok
      ⟨.server ((wire skipped).length + 1), UInt8.ofNat p.length⟩ where
  selects q hq := by
    rw [hfind] at hq
    obtain rfl := Option.some.inj hq
    -- behind the entries that are skipped and one length byte
    have hdrop : (wire (skipped ++ p :: ps)).drop ((wire skipped).length + 1) = p ++ wire ps := by
      rw [wire_append, wire_cons, ← List.drop_drop, List.drop_left]
      rfl
    refine ⟨rfl, _, rfl, ?_, UInt8.toNat_ofNat_of_lt' (Nat.lt_succ_of_le hlen.2)⟩
    rw [hdrop, List.take_left]
  fatal_iff := by
    constructor
    · intro hcode
      cases hcode
    · intro hdisjoint
      have hmem : p ∈ skipped ++ p :: ps := by simp
      exact (hdisjoint hmem hp).elim
  untouched hcode := by cases hcode
  nonempty _ hzero := by
    have houtLen : (UInt8.ofNat p.length).toNat = p.length :=
      UInt8.toNat_ofNat_of_lt' (Nat.lt_succ_of_le hlen.2)
    rw [show UInt8.ofNat p.length = 0 from hzero] at houtLen
    have hpos := hlen.1
    rw [← houtLen] at hpos
    exact absurd hpos (by decide)

/-- On an encoded list `selection` is the right choice. -/
theorem chooses_selection {protos client : List Bytes} {serverWire : Bytes} (before : OutParams)
    (h : encodeAlpnWire protos = .ok serverWire) :
    Chooses protos client serverWire before (selection before client 0 protos).1
      (selection before client 0 protos).2 := by
  obtain ⟨hlen, rfl⟩ := (encodeAlpnWire_eq_ok_iff protos serverWire).mp h
  rcases hfind : protos.find? (· ∈ client) with _ | p
  · have hdisjoint : protos.Disjoint client := by
      intro p hp hclient
      simpa [hclient] using List.find?_eq_none.mp hfind p hp
    rw [selection_of_disjoint before 0 hdisjoint]
    exact chooses_of_disjoint before hdisjoint
  · obtain ⟨hp, skipped, ps, rfl, hskipped⟩ := List.find?_eq_some_iff_append.mp hfind
    have hclient : p ∈ client := of_decide_eq_true hp
    have hdisjoint : skipped.Disjoint client := by
      intro q hq hqc
      simpa [hqc] using hskipped q hq
    rw [selection_of_common before 0 hdisjoint hclient, Nat.zero_add]
    exact chooses_of_common before (hlen p (by simp)) hfind hclient

/-- The callback is right about every client. -/
structure AlpnSelection (Cert Key : Type) : Prop where
  /-- A client's buffer has a longest well-formed prefix. -/
  exists_prefix : ∀ clientWire, ∃ client, (∀ p ∈ client, p.length ≤ 255) ∧
    IsLongest UInt8.toNat (wire client) clientWire
  /-- The entries of that prefix are the client's protocols, whatever follows it. -/
  any_client : ∀ (ctx : SslCtx Cert Key) protos serverWire clientWire client before,
    encodeAlpnWire protos = .ok serverWire → ctx.alpnWire = some serverWire →
    (∀ p ∈ client, p.length ≤ 255) → IsLongest UInt8.toNat (wire client) clientWire →
    ∃ code after, alpnSelectCb (some ctx) clientWire before = .returned (code, after) ∧
      Chooses protos client serverWire before code after
  /-- In particular they are the protocols of a list that the client has encoded. -/
  encoded_client : ∀ (ctx : SslCtx Cert Key) protos serverWire clientWire client before,
    encodeAlpnWire protos = .ok serverWire → ctx.alpnWire = some serverWire →
    encodeAlpnWire client = .ok clientWire →
    ∃ code after, alpnSelectCb (some ctx) clientWire before = .returned (code, after) ∧
      Chooses protos client serverWire before code after

/-- The callback on a client's buffer that is split into frames. -/
theorem alpnSelectCb_splits {Cert Key : Type} {ctx : SslCtx Cert Key} {protos : List Bytes}
    {serverWire clientWire rest : Bytes} {cs : List (Frame UInt8.toNat)} (before : OutParams)
    (hserver : encodeAlpnWire protos = .ok serverWire) (hctx : ctx.alpnWire = some serverWire)
    (hclient : Splits UInt8.toNat clientWire cs rest) :
    ∃ code after, alpnSelectCb (some ctx) clientWire before = .returned (code, after) ∧
      Chooses protos (bodies cs) serverWire before code after := by
  refine ⟨_, _, ?_, chooses_selection before hserver⟩
  obtain ⟨fs, hsplits, rfl⟩ := splits_encoded hserver
  rw [alpnSelectCb]
  simp only [hctx]
  exact selectLoop_splits before 0 hclient hsplits

/-- Protocols whose wire format is the longest well-formed prefix are what the decoder sees. -/
theorem exists_splits_of_isLongest {client : List Bytes} {clientWire : Bytes}
    (hlen : ∀ p ∈ client, p.length ≤ 255) (h : IsLongest UInt8.toNat (wire client) clientWire) :
    ∃ cs rest, Splits UInt8.toNat clientWire cs rest ∧ bodies cs = client := by
  obtain ⟨cs, rest, hsplits⟩ := Lib.Framing.exists_splits UInt8.toNat clientWire
  obtain ⟨gs, hgs⟩ := exists_bodies_eq fun p hp => Nat.lt_succ_of_le (hlen p hp)
  have hwrite : write cs = write gs := by
    rw [write_eq_wire gs, hgs]
    exact hsplits.isLongest.unique h
  obtain rfl := Lib.Framing.write_injective hwrite
  exact ⟨cs, rest, hsplits, hgs⟩

/-- **The server's choice is right, whatever the client sends.** -/
theorem alpn_selection (Cert Key : Type) : AlpnSelection Cert Key where
  exists_prefix clientWire := by
    obtain ⟨cs, rest, hsplits⟩ := Lib.Framing.exists_splits UInt8.toNat clientWire
    refine ⟨bodies cs, fun p hp => Nat.le_of_lt_succ (length_lt_of_mem_bodies hp), ?_⟩
    rw [← write_eq_wire]
    exact hsplits.isLongest
  any_client ctx protos serverWire clientWire client before hserver hctx hlen hlongest := by
    obtain ⟨cs, rest, hsplits, rfl⟩ := exists_splits_of_isLongest hlen hlongest
    exact alpnSelectCb_splits before hserver hctx hsplits
  encoded_client ctx protos serverWire clientWire client before hserver hctx hclient := by
    obtain ⟨cs, hsplits, rfl⟩ := splits_encoded hclient
    exact alpnSelectCb_splits before hserver hctx hsplits

end TokioAwsLc.Config
